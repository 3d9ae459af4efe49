import NameCheck.Diagnostic

/-!
The summary of a report for programs. It is counted in tables, diagnostic by diagnostic.
-/
namespace NameCheck.Report

/-- Keys with counts, sorted by key. -/
abbrev Table := List (String × Nat)

/-- Adds to the count of a key. A key without one gets an entry at its place. -/
def Table.add (key : String) (n : Nat) : Table → Table
  | [] => [(key, n)]
  | (other, m) :: rest =>
    if key = other then (other, m + n) :: rest
    else if key < other then (key, n) :: (other, m) :: rest
    else (other, m) :: Table.add key n rest

/-- What is counted while diagnostics are read. -/
structure Counters where
  bySeverity : Table
  byRule : Table
  files : List String
deriving DecidableEq, Repr, Inhabited

namespace Counters

/-- The counters before any diagnostic: every severity is listed with a zero. -/
def start : Counters := ⟨Severity.all.foldl (fun table s => table.add s.name 0) [], [], []⟩

/-- The counters after one more diagnostic. -/
def count (c : Counters) (d : Diagnostic) : Counters where
  bySeverity := c.bySeverity.add d.severity.name 1
  byRule := c.byRule.add d.ruleId 1
  files := c.files.insert d.file

end Counters

/-- Counts over the diagnostics of a report. -/
structure Summary where
  total : Nat
  filesWithIssues : Nat
  bySeverity : Table
  byRule : Table
deriving DecidableEq, Repr, Inhabited

def Summary.of (diagnostics : List Diagnostic) : Summary :=
  let counted := diagnostics.foldl Counters.count Counters.start
  { total := diagnostics.length, filesWithIssues := counted.files.length
    bySeverity := counted.bySeverity, byRule := counted.byRule }

end NameCheck.Report
