import NameCheck.Rule.Basic
import NameCheck.Walk

/-!
The name of a declared asynchronous function ends in `Async`.
-/
namespace NameCheck.AsyncName

open Syntax (Ident FunctionHead Module)

/-- What is wrong with a declared function: it is asynchronous and its name does not say so. -/
def checkDeclaration (name : Ident) (head : FunctionHead) : Option Violation :=
  if head.async && !("Async".toList.isSuffixOf name.name.toList) then
    some { span := head.span, message := "Async function name must end in 'Async'" }
  else none

/-- What is wrong at an event. A default export without a name has nothing to check. -/
def checkEvent : Event → Option Violation
  | .fnDecl head name => checkDeclaration name head
  | .exportDefault _ (.function (some name) head) => checkDeclaration name head
  | _ => none

/-- Every declared asynchronous function whose name does not end in `Async`. -/
def violations (module : Module) : List Violation := collectEvents false checkEvent none module

def rule : ModuleRule where
  metadata :=
    { id := "N001"
      name := "async-func-name"
      description := "Require async function declarations to end in 'Async'"
      category := .naming
      severity := .warning
      examples := some ("// Bad\nasync function loadData() \x7b\x7d\n\n" ++
        "// Good\nasync function loadDataAsync() \x7b\x7d") }
  violations := violations

end NameCheck.AsyncName
