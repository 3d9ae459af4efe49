import NameCheck.Diagnostic

/-!
Settings: which rules run and how severe their diagnostics are.
-/
namespace NameCheck

/-- What a configuration says about rules. Severities are given by id or by name, each reference once. -/
structure Settings where
  disabled : List String := []
  severity : List (String × Severity) := []
  naming : Option Bool := none
  hooks : Option Bool := none
deriving DecidableEq, Repr, Inhabited

namespace Settings

/-- The severity given under a reference. -/
def severityOf? (s : Settings) (ref : String) : Option Severity := (s.severity.find? (·.1 == ref)).map (·.2)

end Settings

end NameCheck
