import NameCheck.Syntax.Scan.Trivia
import NameCheck.Syntax.Tree
import NameCheck.Text.Utf8

/-!
Offsets in bytes. A parse counts the characters before a place, and what comes of it is handed out with offsets in
bytes: no offset can then lie inside a character.
-/
namespace NameCheck.Syntax

/-- Adds the number of bytes up to and with one more character. -/
def pushOffset (offsets : Array Nat) (c : Char) : Array Nat := offsets.push (offsets.back?.getD 0 + c.utf8Size)

/-- The number of bytes before every character of a text and before its end. -/
def byteOffsets (text : List Char) : Array Nat := text.foldl pushOffset #[0]

/-! ## Trees

A tree in which every offset is counted another way. -/

def Ident.mapOffsets (f : Nat → Nat) (id : Ident) : Ident := { id with span := id.span.map f }

def Key.mapOffsets (f : Nat → Nat) : Key → Key
  | .name id => .name (id.mapOffsets f)
  | .text span value => .text (span.map f) value
  | .number span value => .number (span.map f) value
  | .bigint span => .bigint (span.map f)
  | .computed span => .computed (span.map f)
  | .hidden id => .hidden (id.mapOffsets f)

def FunctionHead.mapOffsets (f : Nat → Nat) (head : FunctionHead) : FunctionHead :=
  { head with span := head.span.map f }

def DefaultKind.mapOffsets (f : Nat → Nat) : DefaultKind → DefaultKind
  | .classDecl => .classDecl
  | .function name head => .function (name.map (Ident.mapOffsets f)) (head.mapOffsets f)
  | .interface => .interface

mutual

def Node.mapOffsets (f : Nat → Nat) : Node → Node
  | .ident id => .ident (id.mapOffsets f)
  | .paren span inner => .paren (span.map f) (inner.mapOffsets f)
  | .member span chained object name => .member (span.map f) chained (object.mapOffsets f) (name.mapOffsets f)
  | .call span callee arguments types =>
    .call (span.map f) (callee.mapOffsets f) (mapAll f arguments) (mapAll f types)
  | .optCall span callee arguments types =>
    .optCall (span.map f) (callee.mapOffsets f) (mapAll f arguments) (mapAll f types)
  | .spread span inner => .spread (span.map f) (inner.mapOffsets f)
  | .fnDecl head name parts => .fnDecl (head.mapOffsets f) (name.mapOffsets f) (mapAll f parts)
  | .fnExpr head name parts => .fnExpr (head.mapOffsets f) (name.map (Ident.mapOffsets f)) (mapAll f parts)
  | .arrow head parts => .arrow (head.mapOffsets f) (mapAll f parts)
  | .declaration span kind declarators => .declaration (span.map f) kind (mapAll f declarators)
  | .declarator span target init => .declarator (span.map f) (target.mapOffsets f) (mapOption f init)
  | .assign span operator target value =>
    .assign (span.map f) operator (target.mapOffsets f) (value.mapOffsets f)
  | .keyValue span key keyParts value =>
    .keyValue (span.map f) (key.mapOffsets f) (mapAll f keyParts) (value.mapOffsets f)
  | .method kind head key keyParts parts =>
    .method kind (head.mapOffsets f) (key.mapOffsets f) (mapAll f keyParts) (mapAll f parts)
  | .constructor head parts => .constructor (head.mapOffsets f) (mapAll f parts)
  | .classMethod head keyParts parts => .classMethod (head.mapOffsets f) (mapAll f keyParts) (mapAll f parts)
  | .field span keyParts value types => .field (span.map f) (mapAll f keyParts) (mapOption f value) (mapAll f types)
  | .patternDefault span target value => .patternDefault (span.map f) (target.mapOffsets f) (value.mapOffsets f)
  | .patternShorthand span key value => .patternShorthand (span.map f) (key.mapOffsets f) (mapOption f value)
  | .importDecl span source locals attributes =>
    .importDecl (span.map f) source (locals.map (Ident.mapOffsets f)) (mapAll f attributes)
  | .exportDefault span kind decl => .exportDefault (span.map f) (kind.mapOffsets f) (decl.mapOffsets f)
  | .group form span parts => .group form (span.map f) (mapAll f parts)

def Node.mapAll (f : Nat → Nat) : List Node → List Node
  | [] => []
  | node :: rest => node.mapOffsets f :: mapAll f rest

def Node.mapOption (f : Nat → Nat) : Option Node → Option Node
  | none => none
  | some node => some (node.mapOffsets f)

end

def Module.mapOffsets (f : Nat → Nat) (module : Module) : Module := ⟨module.items.map (Node.mapOffsets f)⟩

end NameCheck.Syntax
