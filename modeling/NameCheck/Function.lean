import NameCheck.Syntax.Tree

/-!
Functions in a syntax tree, each with the node that holds it. A function is known by its kind and its span.
-/
namespace NameCheck

open Syntax (Node Ident FunctionHead)

/-- The forms in which a function occurs. -/
inductive FunctionKind where
  | decl | expr | arrow | method | getter | setter | constructor
deriving DecidableEq, Repr, Inhabited

/-- A function, with the name it carries itself. -/
structure Function where
  kind : FunctionKind
  head : FunctionHead
  ownName : Option Ident
deriving DecidableEq, Repr, Inhabited

namespace Function

def span (f : Function) : Span := f.head.span

def async (f : Function) : Bool := f.head.async

/-- The function that an expression is, inside any parentheses. -/
def ofExpr? (node : Node) : Option Function :=
  match node.stripParens with
  | .fnExpr head name _ => some ⟨.expr, head, name⟩
  | .arrow head _ => some ⟨.arrow, head, none⟩
  | _ => none

/-- Whether an expression is this very function, inside any parentheses. -/
def isExpr (f : Function) (node : Node) : Bool :=
  match node.stripParens with
  | .fnExpr head _ _ => f.kind == .expr && f.span == head.span
  | .arrow head _ => f.kind == .arrow && f.span == head.span
  | _ => false

/-- The function of a method or an accessor of an object. -/
def ofMethodKind : Syntax.MethodKind → FunctionKind
  | .method => .method
  | .getter => .getter
  | .setter => .setter

end Function

/-- A function and the node that may give it a name; none if its surroundings never do. -/
structure Cursor where
  function : Function
  parent : Option Node
deriving Inhabited

end NameCheck
