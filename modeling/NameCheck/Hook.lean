import NameCheck.Syntax.Tree

/-!
Which calls are calls of hooks.
-/
namespace NameCheck

open Syntax (Node)

/-- A capital letter of ASCII. -/
def isCapital (c : Char) : Bool := 'A' ≤ c && c ≤ 'Z'

/-- Whether a name is that of a hook: `use` before a capital or a digit, and no line feed after it. -/
def isHookName (name : String) : Bool :=
  match name.toList with
  | 'u' :: 's' :: 'e' :: c :: rest => (isCapital c || c.isDigit) && !rest.contains '\n'
  | _ => false

/-- Whether an expression is a name that starts with a capital, inside any parentheses. -/
def isNamespace (node : Node) : Bool :=
  match node.stripParens with
  | .ident id =>
    match id.name.toList with
    | c :: _ => isCapital c
    | [] => false
  | _ => false

/-- Whether a callee is a hook: a hook's name, or such a member of a namespace. -/
def isHook (callee : Node) : Bool :=
  match callee.stripParens with
  | .ident id => isHookName id.name
  | .member _ _ object name => isHookName name.name && isNamespace object
  | _ => false

end NameCheck
