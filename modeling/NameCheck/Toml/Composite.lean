import NameCheck.Toml.Moment

/-!
Values, among them arrays and tables on one line.
-/
namespace NameCheck.Toml

/-! ## Tables on one line -/

/-- Adds an entry to a table on one line, under a key whose last part is `name`. The tables that its other
parts lead to are made if need be; they are no others than those made for dotted keys. -/
def addInline (name : String) (value : Value) : (passed path : List String) → Entries → Except Cause Entries
  | _, [], entries =>
    if (entries.lookup name).isSome then throw (.duplicateKey name none) else return entries ++ [(name, value)]
  | passed, key :: path, entries =>
    match entries.lookup key with
    | none => do
      let inner ← addInline name value (passed ++ [key]) path []
      return entries ++ [(key, .table .inlineDotted inner)]
    | some (.table .inlineDotted inner) => do
      let inner ← addInline name value (passed ++ [key]) path inner
      return Entries.replace entries key (.table .inlineDotted inner)
    | some (.table _ _) => throw (.duplicateKey key none)
    | some other => throw (.extendsValue (passed ++ [key]) other.typeName)

namespace Reader

/-- Reads the equals sign after a key. -/
def equals : Reader Unit := expecting ["`.`", "`=`"] (char '=')

def inlineEntry (value : Reader Value) : Reader (List String × Value) := do
  let name ← key
  commit do
    equals
    blanks
    let v ← value
    blanks
    return (name, v)

/-- Reads a table on one line. -/
def inlineTable (value : Reader Value) : Reader Value := do
  char '\x7b'
  let entries ← commit do
    let found ← separated (inlineEntry value) (char ',')
    blanks
    accept (found.foldlM (fun entries (name, v) => addInline (name.getLastD "") v [] name.dropLast entries) [])
  expecting ["`\x7d`"] (part "inline table" (commit (char '\x7d')))
  return .table .inline entries

/-! ## Arrays -/

/-- Reads an item of an array, with what may stand around it. -/
def arrayItem (value : Reader Value) : Reader Value := do
  gap
  let v ← value
  gap
  return v

/-- Reads the items of an array; a comma may follow the last. -/
def arrayItems (value : Reader Value) : Reader (List Value) := do
  if (← next?) == some ']' then return []
  else do
    let items ← separated (arrayItem value) (char ',')
    if !items.isEmpty then let _ ← maybe (char ',')
    gap
    return items

def array (value : Reader Value) : Reader Value := do
  char '['
  let items ← commit (arrayItems value)
  expecting ["`]`"] (part "array" (commit (char ']')))
  return .array items

/-! ## Values -/

/-- Reads a word as far as it goes on like a value without quotes; all else should have been a text in
quotes. -/
def orText (step : Reader Value) : Reader Value := expecting ["`\"`", "`'`"] (part "string" step)

/-- Reads a number, a day or a time. -/
def numeric : Reader Value :=
  or (do return .moment (← moment)) (or (do return .real (← real)) (do return .integer (← integer)))

/-- Reads a value. What arrays and tables hold is read with `inner`; without it they are nested too deep. -/
def valueWith (inner : Option (Reader Value)) : Reader Value := do
  match ← next? with
  | none => fail
  | some c =>
    if c == '"' || c == '\'' then return .text (← quotedText)
    else if c == '[' || c == '\x7b' then
      match inner with
      | none => commit (failFor .tooDeep)
      | some value => if c == '[' then array value else inlineTable value
    else if c == '+' || c == '-' || c.isDigit then numeric
    else if c == '_' then expecting ["leading digit"] (do return .integer (← integer))
    else if c == '.' then expecting ["leading digit"] (do return .real (← real))
    else if c == 't' then orText (do commit (exactly "true"); return .boolean true)
    else if c == 'f' then orText (do commit (exactly "false"); return .boolean false)
    else if c == 'i' then orText (do return .real (← infinity))
    else if c == 'n' then orText (do return .real (← notANumber))
    else orText fail

/-- Reads a value in which arrays and tables are nested at most so deep. -/
def valueWithin : (depth : Nat) → Reader Value
  | 0 => valueWith none
  | depth + 1 => valueWith (some (valueWithin depth))

def value : Reader Value := valueWithin (depthLimit - 1)

end Reader

end NameCheck.Toml
