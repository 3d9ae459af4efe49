import NameCheck.Diagnostic

/-!
Rules: what they are called and what they report about a script. Those that look for violations in the module of the
script report one diagnostic for each.
-/
namespace NameCheck

inductive Category where
  | naming
  | hooks
deriving DecidableEq, Repr, Inhabited

def Category.name : Category → String
  | .naming => "naming"
  | .hooks => "hooks"

/-- What is known of a rule without running it. -/
structure Metadata where
  id : String
  name : String
  description : String
  category : Category
  severity : Severity
  examples : Option String
deriving DecidableEq, Repr, Inhabited

/-- Whether a reference names a rule, by its id or by its name. -/
def Metadata.answersTo (m : Metadata) (ref : String) : Bool := m.id == ref || m.name == ref

/-- A rule and what it reports about a script; none if it breaks off. Directives of the script can only be asked. -/
structure Rule where
  metadata : Metadata
  check? : Script → Option (List Diagnostic)
  check?_alike : ∀ (script : Script) (directives : Directives), directives.Alike script.directives →
    check? { script with directives } = check? script

/-- A rule that is given by what it finds wrong in a module. -/
structure ModuleRule where
  metadata : Metadata
  violations : Syntax.Module → List Violation

namespace ModuleRule

/-- A violation as a diagnostic of a script; none if it starts or ends inside a character. -/
def locate? (rule : ModuleRule) (script : Script) (violation : Violation) : Option Diagnostic :=
  (script.range? violation.span).map fun range =>
    { ruleId := rule.metadata.id, severity := rule.metadata.severity, message := violation.message
      file := script.filename, range, suggestion := violation.suggestion }

/-- The diagnostics for a script, none if one of them has no position. A script without a module has no
diagnostics. -/
def check? (rule : ModuleRule) (script : Script) : Option (List Diagnostic) :=
  match script.module with
  | none => some []
  | some module => (rule.violations module).mapM (rule.locate? script)

def toRule (rule : ModuleRule) : Rule where
  metadata := rule.metadata
  check? := rule.check?
  check?_alike := fun _ _ _ => rfl

@[simp] theorem metadata_toRule (rule : ModuleRule) : rule.toRule.metadata = rule.metadata := rfl

@[simp] theorem check?_toRule (rule : ModuleRule) : rule.toRule.check? = rule.check? := rfl

end ModuleRule

end NameCheck
