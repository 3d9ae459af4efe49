import NameCheck.Report.Style
import NameCheck.Report.Tally

/-!
The report with one line for each diagnostic.
-/
namespace NameCheck.Report

/-- A diagnostic on a line, with what it suggests on the next. -/
def diagnosticLine (d : Diagnostic) : Page :=
  let start := d.range.start
  [.plain (d.file ++ ":" ++ toString start.line ++ ":" ++ toString start.column ++ ": "), severityLabel d.severity,
    .plain " [", .dimmed d.ruleId, .plain ("]: " ++ d.message ++ "\n")] ++
    (match d.suggestion with
      | some suggestion => [.plain "  ", .coloured .green "suggestion:", .plain (" " ++ suggestion ++ "\n")]
      | none => [])

/-- The report with one line for each diagnostic; nothing if there is nothing to report. -/
def plainPage (diagnostics : List Diagnostic) : Page :=
  if diagnostics.isEmpty then []
  else
    let tally := Tally.of diagnostics
    diagnostics.flatMap diagnosticLine ++
      [.plain ("\nFound " ++ toString tally.errors ++ " error(s) and " ++ toString tally.warnings ++ " warning(s)\n")]

end NameCheck.Report
