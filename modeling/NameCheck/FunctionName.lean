import NameCheck.Function

/-!
The name of a function: the one it carries, else the one its surroundings give it.
-/
namespace NameCheck

open Syntax (Node Ident Key)

/-- What the name of a function was taken from. -/
inductive FunctionName where
  | ident (id : Ident)
  | keyed (key : Key)
  | assigned (target : Node)
  | bound (pattern : Node)
deriving Inhabited

namespace FunctionName

/-- The name that a pattern is, if it is no more than a name. -/
def bareName? : Node → Option Ident
  | .ident id => some id
  | .group .annotated _ (.ident id :: _) => some id
  | _ => none

def ofPattern (node : Node) : FunctionName :=
  match bareName? node with
  | some id => .ident id
  | none => .bound node

def ofTarget (node : Node) : FunctionName :=
  match bareName? node with
  | some id => .ident id
  | none => .assigned node

def text? : FunctionName → Option String
  | .ident id => some id.name
  | .keyed (.name id) => some id.name
  | .keyed (.text _ value) => some value
  | .keyed (.number _ value) => some value.text
  | .keyed _ => none
  | .assigned (.member _ false _ name) => some name.name
  | .assigned _ => none
  | .bound _ => none

def span : FunctionName → Span
  | .ident id => id.span
  | .keyed key => key.span
  | .assigned node => node.span
  | .bound node => node.span

/-- Whether a key is written out and not computed. -/
def isPlain : Key → Bool
  | .computed _ => false
  | _ => true

/-- The name that the surroundings of a function give it. -/
def ofParent? (f : Function) : Node → Option FunctionName
  | .declarator _ target (some init) => if f.isExpr init then some (ofPattern target) else none
  | .assign _ .assign target value => if f.isExpr value then some (ofTarget target) else none
  | .keyValue _ key _ value => if isPlain key && f.isExpr value then some (.keyed key) else none
  | .method kind head key _ _ =>
    if isPlain key && f.kind == Function.ofMethodKind kind && f.span == head.span then some (.keyed key) else none
  | .patternDefault _ target value => if f.isExpr value then some (ofPattern target) else none
  | .patternShorthand _ key (some value) => if f.isExpr value then some (.ident key) else none
  | _ => none

end FunctionName

def Cursor.name? (cursor : Cursor) : Option FunctionName :=
  match cursor.function.ownName with
  | some id => some (.ident id)
  | none => cursor.parent.bind (FunctionName.ofParent? cursor.function)

end NameCheck
