import NameCheck.FunctionName
import NameCheck.Hook
import NameCheck.Rule.Basic
import NameCheck.Walk

/-!
The callback of a hook has a name of its own.
-/
namespace NameCheck.HookCallback

open Syntax (Node Module)

/-- The name of the first argument of a call, if it is a function with a name. -/
def firstArgumentName? (call : Node) (arguments : List Node) : Option FunctionName :=
  match arguments with
  | [] => none
  | .spread _ _ :: _ => none
  | argument :: _ => (Function.ofExpr? argument).bind fun f => Cursor.name? ⟨f, some call⟩

/-- What is wrong with a call: it calls a hook and its first argument is no named function. -/
def checkCall (call : Node) (span : Span) (callee : Node) (arguments : List Node) : Option Violation :=
  if isHook callee && (firstArgumentName? call arguments).isNone then
    some ⟨span, "Use named function", some "Pass a named function expression, e.g. function handleEffect() \x7b\x7d"⟩
  else none

def checkEvent : Event → Option Violation
  | .call span callee arguments types => checkCall (.call span callee arguments types) span callee arguments
  | .optCall span callee arguments types => checkCall (.optCall span callee arguments types) span callee arguments
  | _ => none

/-- Every call of a hook without a named callback. -/
def violations (module : Module) : List Violation := collectEvents false checkEvent none module

def rule : ModuleRule where
  metadata :=
    { id := "H001"
      name := "hook-func-name"
      description := "Require hook callbacks to be named functions"
      category := .hooks
      severity := .warning
      examples := some ("// Bad\nuseEffect(() => \x7b\n  document.title = title;\n\x7d);\n\n" ++
        "// Good\nuseEffect(function syncTitle() \x7b\n  document.title = title;\n\x7d);") }
  violations := violations

end NameCheck.HookCallback
