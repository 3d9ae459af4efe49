import NameCheck.Diagnostic

/-!
The counts that decide how a check ends.
-/
namespace NameCheck.Report

/-- The numbers of errors and of warnings. -/
structure Tally where
  errors : Nat := 0
  warnings : Nat := 0
deriving DecidableEq, Repr, Inhabited

/-- The tally after one more diagnostic of a severity; information and hints are not counted. -/
def Tally.count (tally : Tally) : Severity → Tally
  | .error => { tally with errors := tally.errors + 1 }
  | .warning => { tally with warnings := tally.warnings + 1 }
  | .info | .hint => tally

def Tally.of (diagnostics : List Diagnostic) : Tally :=
  diagnostics.foldl (fun tally d => tally.count d.severity) {}

end NameCheck.Report
