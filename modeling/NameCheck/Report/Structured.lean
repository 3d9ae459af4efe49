import NameCheck.Json.Print
import NameCheck.Registry
import NameCheck.Report.Summary

/-!
The report for programs.
-/
namespace NameCheck.Report

/-- The version that reports carry. -/
def version : String := "0.1.0"

def countsJson (counts : List (String × Nat)) : Json := .object (counts.map fun (key, n) => (key, .number n))

def positionJson (p : Source.Position) : Json := .object [("line", .number p.line), ("column", .number p.column)]

/-- A member that is left out if there is no value. -/
def optionalMember (key : String) (value : Option String) : List (String × Json) :=
  (value.map fun text => (key, Json.text text)).toList

/-- A diagnostic as an object. The name of its rule is given if the registry knows the rule. -/
def diagnosticJson (registry : Registry) (d : Diagnostic) : Json :=
  .object (("rule_id", .text d.ruleId) ::
    (optionalMember "rule_name" ((registry.get? d.ruleId).map (·.metadata.name)) ++
      [("severity", .text d.severity.name), ("message", .text d.message), ("file", .text d.file),
        ("start", positionJson d.range.start), ("end", positionJson d.range.stop)] ++
      optionalMember "suggestion" d.suggestion))

def summaryJson (s : Summary) : Json :=
  .object [("total", .number s.total), ("files_with_issues", .number s.filesWithIssues),
    ("by_severity", countsJson s.bySeverity), ("by_rule", countsJson s.byRule)]

def structured (registry : Registry) (files : Nat) (diagnostics : List Diagnostic) : Json :=
  .object [("namelint_version", .text version), ("files", .number files),
    ("summary", summaryJson (Summary.of diagnostics)),
    ("diagnostics", .array (diagnostics.map (diagnosticJson registry)))]

def renderStructured (registry : Registry) (files : Nat) (diagnostics : List Diagnostic) : String :=
  (structured registry files diagnostics).pretty

end NameCheck.Report
