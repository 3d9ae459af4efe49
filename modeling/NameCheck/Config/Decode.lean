import NameCheck.Settings
import NameCheck.Text.Quoted
import NameCheck.Toml.Document

/-!
Settings from the entries of a configuration text. Entries that mean nothing here become warnings.
-/
namespace NameCheck.Config

/-- Why the entries of a configuration text are no settings. -/
inductive Mismatch where
  | wrongType (found : Toml.Value) (wanted : String)
  | unknownSeverity (name : String)
  | severityType
  | noChoice
  | manyChoices
  | choiceType (type : String)
  | choiceContent (wanted : String)
deriving DecidableEq, Inhabited

/-- How a value is described where it should not stand. -/
def describe : Toml.Value → String
  | .text s => "string " ++ Text.quote s
  | .integer n => "integer `" ++ toString n ++ "`"
  | .real r => "floating point `" ++ r.text ++ "`"
  | .boolean b => "boolean `" ++ toString b ++ "`"
  | .array _ | .tables _ => "sequence"
  | .moment _ | .table _ _ => "map"

def Mismatch.message : Mismatch → String
  | .wrongType found wanted => "invalid type: " ++ describe found ++ ", expected " ++ wanted
  | .unknownSeverity name =>
    "unknown variant `" ++ name ++ "`, expected one of " ++
      String.intercalate ", " (Severity.all.map fun s => "`" ++ s.name ++ "`")
  | .severityType => "wanted string or table"
  | .noChoice => "wanted exactly 1 element, found 0 elements"
  | .manyChoices => "wanted exactly 1 element, more than 1 element"
  | .choiceType type => "expected table, found " ++ type
  | .choiceContent wanted => "expected empty " ++ wanted

/-- The key under which a moment stands where a table is wanted. -/
def momentKey : String := "$__toml_private_datetime"

/-- The entries of a value that can stand for a table. -/
def entriesOf? : Toml.Value → Option Toml.Entries
  | .table _ entries => some entries
  | .moment m => some [(momentKey, .text m.text)]
  | _ => none

def severityNamed (name : String) : Except Mismatch Severity :=
  match Severity.ofName? name with
  | some severity => return severity
  | none => throw (.unknownSeverity name)

/-- Checks what stands under the name of a severity, which should be empty. -/
def checkChoice : Toml.Value → Except Mismatch Unit
  | .array items => if items.isEmpty then return () else throw (.choiceContent "table")
  | .tables items => if items.isEmpty then return () else throw (.choiceContent "array")
  | .table _ entries => if entries.isEmpty then return () else throw (.choiceContent "table")
  | other => throw (.choiceType other.typeName)

/-- A severity: its name, or a table with its name as the only key. -/
def severityOf : Toml.Value → Except Mismatch Severity
  | .text name => severityNamed name
  | .table _ [] => throw .noChoice
  | .table _ [(name, content)] => do
    let severity ← severityNamed name
    checkChoice content
    return severity
  | .table _ _ => throw .manyChoices
  | _ => throw .severityType

def booleanOf : Toml.Value → Except Mismatch Bool
  | .boolean b => return b
  | other => throw (.wrongType other "a boolean")

def textOf : Toml.Value → Except Mismatch String
  | .text s => return s
  | other => throw (.wrongType other "a string")

def textsOf : Toml.Value → Except Mismatch (List String)
  | .array items => items.mapM textOf
  | .tables items => (items.map (Toml.Value.table .header)).mapM textOf
  | other => throw (.wrongType other "a sequence")

def severitiesOf (value : Toml.Value) : Except Mismatch (List (String × Severity)) :=
  match entriesOf? value with
  | some entries => entries.mapM fun (ref, v) => do return (ref, ← severityOf v)
  | none => throw (.wrongType value "a map")

/-- Settings and the keys that mean nothing. -/
structure Section where
  settings : Settings := {}
  unknown : List String := []
deriving Inhabited

/-- Takes an entry of the table of rules into account. -/
def Section.add (s : Section) (entry : String × Toml.Value) : Except Mismatch Section := do
  let (key, value) := entry
  if key = "disabled" then return { s with settings.disabled := ← textsOf value }
  else if key = "severity" then return { s with settings.severity := ← severitiesOf value }
  else if key = "naming" then return { s with settings.naming := some (← booleanOf value) }
  else if key = "hooks" then return { s with settings.hooks := some (← booleanOf value) }
  else return { s with unknown := s.unknown ++ [key] }

/-- The settings of the table of rules. -/
def sectionOf (value : Toml.Value) : Except Mismatch Section :=
  match entriesOf? value with
  | some entries => entries.foldlM Section.add {}
  | none => throw (.wrongType value "struct RulesSection")

/-- Settings with the warnings that came up when they were loaded. -/
structure Loaded where
  settings : Settings := {}
  warnings : List String := []
deriving DecidableEq, Repr, Inhabited

def sorted (texts : List String) : List String := texts.mergeSort fun a b => decide (a ≤ b)

def rulesKey : String := "rules"

/-- The settings of a configuration text. -/
def ofEntries (entries : Toml.Entries) : Except Mismatch Loaded := do
  let rules ← match entries.lookup rulesKey with
    | some value => sectionOf value
    | none => pure {}
  let unknown := (entries.map (·.1)).filter (· ≠ rulesKey)
  return {
    settings := rules.settings
    warnings := (sorted unknown).map (fun key => "Unknown config option: '" ++ key ++ "'") ++
      (sorted rules.unknown).map (fun key => "Unknown config option in [rules]: '" ++ key ++ "'") }

/-- Why a configuration text cannot be used. -/
inductive Fault where
  | unreadable (failure : Toml.Failure)
  | content (mismatch : Mismatch)
deriving DecidableEq, Inhabited

def Fault.message : Fault → String
  | .unreadable failure => failure.message
  | .content mismatch => mismatch.message

def ofText (text : String) : Except Fault Loaded := do
  let entries ← (Toml.parse text).mapError .unreadable
  (ofEntries entries).mapError .content

end NameCheck.Config
