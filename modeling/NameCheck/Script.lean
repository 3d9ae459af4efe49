import NameCheck.Directive
import NameCheck.Source.Display
import NameCheck.Syntax.Parse.Run
import NameCheck.Text.Quoted

/-!
Scripts: source files that were read by the grammar their name asks for.
-/
namespace NameCheck

/-- The grammar of a script. -/
inductive Dialect where
  | javaScript
  | typeScript
  | tsx
deriving DecidableEq, Repr, Inhabited

namespace Dialect

def name : Dialect → String
  | .javaScript => "JavaScript"
  | .typeScript => "TypeScript"
  | .tsx => "Tsx"

/-- The text after the last dot, or nothing if there is none. -/
def extensionOf (filename : List Char) : List Char :=
  if filename.contains '.' then (filename.reverse.takeWhile (· != '.')).reverse else []

/-- The dialect that the extension of a file asks for, whatever its case. -/
def ofFilename (filename : String) : Dialect :=
  let extension := String.ofList ((extensionOf filename.toList).map Char.toLower)
  if extension == "ts" || extension == "mts" || extension == "cts" then .typeScript
  else if extension == "tsx" then .tsx
  else .javaScript

/-- What a dialect adds to the language. -/
def features : Dialect → Syntax.Features
  | .javaScript => ⟨true, false⟩
  | .typeScript => ⟨false, true⟩
  | .tsx => ⟨true, true⟩

end Dialect

/-- A problem with the text of a script, where a terminal shows it. -/
structure ParseError where
  line : Nat
  column : Nat
  message : String
deriving DecidableEq, Repr, Inhabited

/-- The error and its position in one line. -/
def ParseError.describe (e : ParseError) : String :=
  e.message ++ " at " ++ toString e.line ++ ":" ++ toString e.column

def ParseError.debugText (e : ParseError) : String :=
  "ParseError \x7b line: " ++ toString e.line ++ ", column: " ++ toString e.column ++ ", message: " ++
    Text.quote e.message ++ " \x7d"

/-- A script that was read. It has no module if reading stopped. -/
structure Script where
  filename : String
  dialect : Dialect
  source : String
  module : Option Syntax.Module
  errors : List ParseError
  directives : Directives
deriving Inhabited

namespace Script

/-- The text without a leading byte-order mark. -/
def withoutMark : List Char → List Char
  | c :: rest => if c.toNat == 0xfeff then rest else c :: rest
  | [] => []

/-- A problem as an error of the script with this text. -/
def errorOf (text : List Char) (problem : Syntax.Problem) : ParseError :=
  let position := Source.displayPosition text problem.span.lo
  ⟨position.line, position.column, problem.fault.message⟩

/-- Reads a script; none if a tag in it cannot be named. A leading byte-order mark is no part of the text that is
read. -/
def read? (filename source : String) : Option Script :=
  let dialect := Dialect.ofFilename filename
  let text := withoutMark source.toList
  (Syntax.parse? dialect.features text).map fun outcome =>
    let comments := outcome.comments.map fun c => ((Source.displayPosition text c.offset).line, c.text)
    { filename, dialect, source
      module := outcome.module
      errors := outcome.problems.map (errorOf text)
      directives := .ofComments comments }

/-- The positions of a span of the script; offsets count from the start of the text that was read. -/
def range? (script : Script) (span : Span) : Option Source.Range := Source.range? script.source.toList span

def location? (script : Script) (span : Span) : Option Source.Position :=
  Source.position? script.source.toList span.lo

def text? (script : Script) (span : Span) : Option String :=
  (Source.text? script.source.toList span).map String.ofList

def debugText (script : Script) : String :=
  "ParsedFile \x7b filename: " ++ Text.quote script.filename ++ ", dialect: " ++ script.dialect.name ++
    ", has_module: " ++ toString script.module.isSome ++ ", errors: [" ++
    String.intercalate ", " (script.errors.map ParseError.debugText) ++ "] \x7d"

end Script

end NameCheck
