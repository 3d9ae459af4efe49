import NameCheck.Analysis
import NameCheck.Command.Configured
import NameCheck.Files.Discover
import NameCheck.Report.Plain
import NameCheck.Report.Pretty
import NameCheck.Report.Structured

/-!
The command that checks files: it analyses every source file at or below a path, reports what is severe enough
and fails if there are errors.
-/
namespace NameCheck.Command

/-- What a check is asked to do, as it was written. -/
structure CheckOptions where
  path : Files.Path
  format : String := "pretty"
  failOnWarnings : Bool := false
  severity : Option String := none
  noColour : Bool := false
deriving DecidableEq, Repr, Inhabited

inductive Format where
  | pretty
  | text
  | json
deriving DecidableEq, Repr, Inhabited

def Format.ofName? : String → Option Format
  | "pretty" => some .pretty
  | "text" => some .text
  | "json" => some .json
  | _ => none

inductive CheckError where
  | format (name : String)
  | severity (name : String)
  | noPath (path : Files.Path)
deriving DecidableEq, Repr, Inhabited

def CheckError.message : CheckError → String
  | .format name => "Invalid format '" ++ name ++ "'. Valid values: pretty, text, json"
  | .severity name => "Invalid severity '" ++ name ++ "'. Valid values: error, warning, info, hint"
  | .noPath path => "Path does not exist: " ++ path

namespace Check

def format (options : CheckOptions) : Except CheckError Format :=
  match Format.ofName? options.format with
  | some format => return format
  | none => throw (.format options.format)

/-- The least severe level that is reported; everything if nothing was asked for. -/
def threshold (options : CheckOptions) : Except CheckError Severity :=
  match options.severity with
  | none => return .hint
  | some name =>
    match Severity.ofName? name with
    | some severity => return severity
    | none => throw (.severity name)

/-! ## Files -/

/-- A file that could be read. -/
structure Readable where
  path : Files.Path
  text : String
deriving DecidableEq, Repr, Inhabited

def readable (files : List Files.SourceFile) : List Readable :=
  files.filterMap fun file =>
    match file.content with
    | .text text => some ⟨file.path, text⟩
    | .unreadable _ => none

/-- The script in a file; none if it cannot be read as one. -/
def Readable.script? (file : Readable) : Option Script := Script.read? file.path file.text

/-- What is reported about some files, in their order: what is at least as severe as the threshold. None if a file
cannot be read as a script or a rule finds something that starts or ends inside a character. -/
def diagnostics? (registry : Registry) (threshold : Severity) (files : List Files.SourceFile) :
    Option (List Diagnostic) :=
  ((readable files).mapM fun file => file.script? >>= Analysis.run? registry).map fun found =>
    found.flatten.filter fun d => d.severity.atLeast threshold

/-- Whether a check fails: on errors, and on warnings if asked to. -/
def fails (failOnWarnings : Bool) (diagnostics : List Diagnostic) : Bool :=
  let tally := Report.Tally.of diagnostics
  0 < tally.errors || (failOnWarnings && 0 < tally.warnings)

def status (failOnWarnings : Bool) (diagnostics : List Diagnostic) : Nat :=
  if fails failOnWarnings diagnostics then 1 else 0

/-! ## The log -/

def ruleEvent (script : Script) (r : Registered) : Log.Event :=
  { level := .trace, source := "namelint_core::rules", message := "rule finished"
    data := [("rule", .text r.rule.metadata.id), ("count", .count ((r.run? script).getD []).length)] }

def scriptEvents (registry : Registry) (script : Script) : List Log.Event :=
  [{ level := .trace, source := "namelint_core::parser", message := "parsed file"
     data := [("file", .text script.filename), ("dialect", .shown script.dialect.name),
       ("errors", .count script.errors.length)] }] ++
    (registry.entries.filter Registered.enabled).map (ruleEvent script) ++
    [{ level := .debug, source := "namelint_core::analysis", message := "analyzed file"
       data := [("file", .shown script.filename), ("parse_errors", .count script.errors.length),
         ("diagnostics", .count ((Analysis.run? registry script).getD []).length)] }]

def fileEvents (registry : Registry) (file : Files.SourceFile) : List Log.Event :=
  match file.content with
  | .unreadable reason =>
    [{ level := .warn, source := "namelint::commands::check", message := "skipping unreadable file"
       data := [("file", .shown file.path), ("error", .shown reason)] }]
  | .text text => ((Script.read? file.path text).map (scriptEvents registry)).getD []

def discoveredEvent (options : CheckOptions) (files : List Files.SourceFile) : Log.Event :=
  { level := .debug, source := "namelint::commands::check", message := "discovered files"
    data := [("files", .count files.length), ("path", .shown options.path)] }

/-! ## The report -/

def warningPage (warning : String) : Report.Page := [.strong .yellow "warning:", .plain (" " ++ warning ++ "\n")]

def report (format : Format) (registry : Registry) (files : List Files.SourceFile) (diagnostics : List Diagnostic) :
    Report.Page :=
  match format with
  | .pretty => Report.prettyPage ((readable files).map fun file => (file.path, file.text)) diagnostics
  | .text => Report.plainPage diagnostics
  | .json => plain (Report.renderStructured registry files.length diagnostics ++ "\n")

/-- Checks what a path leads to. None if the analysis breaks off. -/
def run? (world : Files.World) (options : CheckOptions) : Option Outcome :=
  match format options, threshold options with
  | .error e, _ | _, .error e => some { status := 1, notices := [failure e.message], world }
  | .ok form, .ok least =>
    let choice := Config.choose world options.path
    let loaded := choice.result
    let notices := configNotices choice ++ loaded.warnings.map fun warning => .page (warningPage warning)
    match Files.discover? world options.path with
    | none =>
      some { status := 1, notices := notices ++ [failure (CheckError.noPath options.path).message], world }
    | some [] => some { output := plain "No JavaScript/TypeScript files found.\n", notices, world }
    | some files =>
      let registry := Registry.ofSettings loaded.settings
      (diagnostics? registry least files).map fun diagnostics =>
        { status := status options.failOnWarnings diagnostics
          output := report form registry files diagnostics
          notices := notices ++ [.event (discoveredEvent options files)] ++
            (files.flatMap (fileEvents registry)).map .event
          world }

end Check

end NameCheck.Command
