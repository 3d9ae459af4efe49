import NameCheck.FunctionName
import NameCheck.Hook
import NameCheck.Rule.Basic

/-!
Constants of the module itself are written in capitals.
-/
namespace NameCheck.ConstantName

open Syntax (Node Module)

/-- Whether a name is written in capitals and underscores. -/
def isUpperCase (name : String) : Bool :=
  !name.toList.isEmpty && name.toList.all fun c => isCapital c || c == '_'

/-- The name that a declarator binds, unless it takes a value apart. -/
def boundName? : Node → Option String
  | .declarator _ target _ => (FunctionName.bareName? target).map (·.name)
  | _ => none

/-- What is wrong with an item of a module: each name of a `const` that is not in capitals. -/
def checkItem : Node → List Violation
  | .declaration span .const declarators =>
    ((declarators.filterMap boundName?).filter (!isUpperCase ·)).map fun name =>
      { span, message := "constant '" ++ name ++ "' should follow UPPER_CASE convention" }
  | _ => []

/-- Every constant that stands directly in the module and is not in capitals. -/
def violations (module : Module) : List Violation := module.items.flatMap checkItem

def rule : ModuleRule where
  metadata :=
    { id := "N002"
      name := "const-naming-convention"
      description := "Require top-level constants to follow UPPER_CASE convention"
      category := .naming
      severity := .warning
      examples := some ("// Bad\nconst apiUrl = 'https://example.com';\n\n" ++
        "// Good\nconst API_URL = 'https://example.com';") }
  violations := violations

end NameCheck.ConstantName
