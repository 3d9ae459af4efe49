import NameCheck.Syntax.Token

/-!
Syntax trees. The forms that naming rules look at have constructors of their own; every other form is a
`group` of its parts, in the order in which they are visited. A type leaves in the tree only the expressions
written inside it.
-/
namespace NameCheck.Syntax

/-- A name at a place. -/
structure Ident where
  span : Span
  name : String
deriving DecidableEq, Repr, Inhabited

/-- The key of a property. The expression of a computed key stands beside it, in the parts. -/
inductive Key where
  | name (id : Ident)
  | text (span : Span) (value : String)
  | number (span : Span) (value : Decimal.Magnitude)
  | bigint (span : Span)
  | computed (span : Span)
  | hidden (id : Ident)
deriving DecidableEq, Repr, Inhabited

def Key.span : Key → Span
  | .name id | .hidden id => id.span
  | .text span _ | .number span _ | .bigint span | .computed span => span

def Key.isHidden : Key → Bool
  | .hidden _ => true
  | _ => false

/-- Where a function stands, and whether it is asynchronous. -/
structure FunctionHead where
  span : Span
  async : Bool
deriving DecidableEq, Repr, Inhabited

/-- The word that introduces a declaration of variables. -/
inductive VariableKind where
  | var | let | const
deriving DecidableEq, Repr, Inhabited

/-- How a function stands in an object: as a method or as one half of an accessor. -/
inductive MethodKind where
  | method | getter | setter
deriving DecidableEq, Repr, Inhabited

/-- What a module exports as its default by a declaration. -/
inductive DefaultKind where
  | classDecl
  | function (name : Option Ident) (head : FunctionHead)
  | interface
deriving DecidableEq, Repr, Inhabited

/-- The forms that no naming rule looks at. -/
inductive Form where
  | literal | text (spelling : String) | template | taggedTemplate | array | object | hole
  | this | superRef | importRef | metaProperty
  | unary | update | await | yield | binary | logical (operator : Punct) | conditional | sequence
  | new (hasArguments : Bool)
  | index (chained : Bool) | privateMember (chained : Bool) | superMember | privateName
  | nonNull | asType | constAssertion | satisfies | typeAssertion | instantiation | annotated | types
  | arrayPattern | objectPattern | rest | keyedPattern | defaultedProperty
  | classBody | markup | invalid | statement
deriving DecidableEq, Repr, Inhabited

inductive Node where
  | ident (id : Ident)
  | paren (span : Span) (inner : Node)
  | member (span : Span) (chained : Bool) (object : Node) (name : Ident)
  | call (span : Span) (callee : Node) (arguments : List Node) (types : List Node)
  | optCall (span : Span) (callee : Node) (arguments : List Node) (types : List Node)
  | spread (span : Span) (inner : Node)
  | fnDecl (head : FunctionHead) (name : Ident) (parts : List Node)
  | fnExpr (head : FunctionHead) (name : Option Ident) (parts : List Node)
  | arrow (head : FunctionHead) (parts : List Node)
  | declaration (span : Span) (kind : VariableKind) (declarators : List Node)
  | declarator (span : Span) (target : Node) (init : Option Node)
  | assign (span : Span) (operator : Punct) (target value : Node)
  | keyValue (span : Span) (key : Key) (keyParts : List Node) (value : Node)
  | method (kind : MethodKind) (head : FunctionHead) (key : Key) (keyParts parts : List Node)
  | constructor (head : FunctionHead) (parts : List Node)
  | classMethod (head : FunctionHead) (keyParts parts : List Node)
  | field (span : Span) (keyParts : List Node) (value : Option Node) (types : List Node)
  | patternDefault (span : Span) (target value : Node)
  | patternShorthand (span : Span) (key : Ident) (value : Option Node)
  | importDecl (span : Span) (source : String) (locals : List Ident) (attributes : List Node)
  | exportDefault (span : Span) (kind : DefaultKind) (decl : Node)
  | group (form : Form) (span : Span) (parts : List Node)
deriving Inhabited

namespace Node

def span : Node → Span
  | .ident id => id.span
  | .fnDecl head _ _ | .fnExpr head _ _ | .arrow head _ | .method _ head _ _ _ | .constructor head _
  | .classMethod head _ _ => head.span
  | .paren span _ | .member span _ _ _ | .call span _ _ _ | .optCall span _ _ _ | .spread span _
  | .declaration span _ _ | .declarator span _ _ | .assign span _ _ _ | .keyValue span _ _ _
  | .field span _ _ _ | .patternDefault span _ _ | .patternShorthand span _ _ | .importDecl span _ _ _
  | .exportDefault span _ _ | .group _ span _ => span

/-- The expression inside any parentheses around it. -/
def stripParens : Node → Node
  | .paren _ inner => inner.stripParens
  | node => node

end Node

/-- The items of a module, in order. -/
structure Module where
  items : List Node
deriving Inhabited

end NameCheck.Syntax
