import NameCheck.Report.Style
import NameCheck.Report.Tally
import NameCheck.Text.Lines

/-!
The report for readers: each diagnostic with the line of code it is about, underlined, then a summary.
-/
namespace NameCheck.Report

/-- The texts of files, by name. -/
abbrev Sources := List (String × String)

/-- The line of code that a diagnostic starts on, if its file is known. -/
def sourceLine? (sources : Sources) (d : Diagnostic) : Option (List Char) :=
  match d.line with
  | 0 => none
  | line + 1 => (sources.lookup d.file).bind fun source => (Text.lines source.toList)[line]?

/-- How many carets underline a diagnostic: up to its end, or to the end of its first line. -/
def underlineWidth (d : Diagnostic) (line : List Char) : Nat :=
  let start := d.range.start
  let stop := d.range.stop
  let width :=
    if stop.line = start.line ∧ start.column < stop.column then stop.column - start.column
    else line.length - (start.column - 1)
  max width 1

def repeated (n : Nat) (c : Char) : String := String.ofList (List.replicate n c)

/-- The row above and below an excerpt. -/
def emptyRow (gutter : String) : Page := [.plain (gutter ++ " "), .coloured .blue "|", .plain "\n"]

/-- The excerpt of a diagnostic: its line of code and the carets under it. -/
def excerpt (gutter : String) (d : Diagnostic) (line : List Char) : Page :=
  emptyRow gutter ++
    [.coloured .blue (toString d.line), .plain " ", .coloured .blue "|", .plain (" " ++ String.ofList line ++ "\n"),
      .plain (gutter ++ " "), .coloured .blue "|", .plain (" " ++ repeated (d.range.start.column - 1) ' '),
      .coloured .red (repeated (underlineWidth d line) '^'), .plain "\n"] ++
    emptyRow gutter

def suggestionRow (gutter suggestion : String) : Page :=
  [.plain (gutter ++ " "), .coloured .blue "=", .plain " ", .coloured .green "suggestion:",
    .plain (" " ++ suggestion ++ "\n")]

def diagnosticPage (sources : Sources) (d : Diagnostic) : Page :=
  let gutter := repeated (toString d.line).length ' '
  [severityLabel d.severity, .plain "[", .dimmed d.ruleId, .plain ("]: " ++ d.message ++ "\n"), .plain gutter,
    .coloured .blue "-->",
    .plain (" " ++ d.file ++ ":" ++ toString d.line ++ ":" ++ toString d.range.start.column ++ "\n")] ++
    ((sourceLine? sources d).map (excerpt gutter d)).getD [] ++
    (d.suggestion.map (suggestionRow gutter)).getD [] ++ [.plain "\n"]

/-- A count with its noun, which takes an `s` unless the count is one. -/
def counted (n : Nat) (noun : String) : String := toString n ++ " " ++ (if n = 1 then noun else noun ++ "s")

def summaryPage (diagnostics : List Diagnostic) : Page :=
  let tally := Tally.of diagnostics
  let total := diagnostics.length
  [.plain "\nFound ", .bold (toString total), .plain (if total = 1 then " problem (" else " problems ("),
    .coloured .red (counted tally.errors "error"), .plain ", ",
    .coloured .yellow (counted tally.warnings "warning"), .plain ")\n"]

/-- The report for readers; nothing if there is nothing to report. -/
def prettyPage (sources : Sources) (diagnostics : List Diagnostic) : Page :=
  if diagnostics.isEmpty then []
  else diagnostics.flatMap (diagnosticPage sources) ++ summaryPage diagnostics

/-- The text of the report for readers. -/
def renderPretty (colour : Bool) (sources : Sources) (diagnostics : List Diagnostic) : String :=
  (prettyPage sources diagnostics).render colour

end NameCheck.Report
