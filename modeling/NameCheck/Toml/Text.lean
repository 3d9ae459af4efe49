import NameCheck.Toml.Reader

/-!
Texts in quotes and keys.
-/
namespace NameCheck.Toml.Reader

/-! ## Quotes -/

/-- A character that stands for itself between double quotes. -/
def isPlain (c : Char) : Bool :=
  isBlank c || c == '!' || (0x23 ≤ c.toNat && c.toNat ≤ 0x7e && c != '\\') || isWide c

/-- A character that may stand between single quotes. -/
def isLiteral (c : Char) : Bool :=
  c == '\t' || (0x20 ≤ c.toNat && c.toNat ≤ 0x7e && c != '\'') || isWide c

def hexDigit? (c : Char) : Option Nat :=
  if '0' ≤ c && c ≤ '9' then some (c.toNat - '0'.toNat)
  else if 'a' ≤ c && c ≤ 'f' then some (c.toNat - 'a'.toNat + 10)
  else if 'A' ≤ c && c ≤ 'F' then some (c.toNat - 'A'.toNat + 10)
  else none

/-- Reads a character by its code point in so many hexadecimal digits. -/
def codePoint (count : Nat) : Reader Char := do
  let digits := (← get).take count
  let values := digits.filterMap hexDigit?
  if values.length = count then do
    set ((← get).drop count)
    let n := values.foldl (16 * · + ·) 0
    if n.isValidChar then return Char.ofNat n else failFor .outOfRange
  else fail

/-- What may follow a backslash. -/
def escapeMarks : List String := ["`b`", "`f`", "`n`", "`r`", "`t`", "`u`", "`U`", "`\\`", "`\"`"]

/-- Reads an escape, from its backslash on. -/
def escaped : Reader Char := do
  char '\\'
  match ← satisfy fun _ => true with
  | 'b' => return Char.ofNat 8
  | 'f' => return Char.ofNat 12
  | 'n' => return '\n'
  | 'r' => return '\r'
  | 't' => return '\t'
  | 'u' => part "unicode 4-digit hex code" (commit (codePoint 4))
  | 'U' => part "unicode 8-digit hex code" (commit (codePoint 8))
  | '\\' => return '\\'
  | '"' => return '"'
  | _ => expecting escapeMarks (part "escape sequence" (commit fail))

/-- Reads some of the characters between double quotes. -/
def plainOrEscaped : Reader (List Char) := or (takeWhile1 isPlain) (do return [← escaped])

/-- Reads a text in double quotes. -/
def basicText : Reader String := do
  char '"'
  let pieces ← many plainOrEscaped
  part "basic string" (commit (char '"'))
  return String.ofList pieces.flatten

/-- Reads a text in single quotes. -/
def literalText : Reader String :=
  part "literal string" do
    char '\''
    let cs ← takeWhile isLiteral
    commit (char '\'')
    return String.ofList cs

/-! ## Quotes over several lines -/

/-- Reads one or two quotes with something behind them. -/
def innerQuotes (quote : Char) (behind : Reader Unit) : Reader (List Char) :=
  or (do char quote; char quote; ahead behind; return [quote, quote]) (do char quote; ahead behind; return [quote])

/-- Reads the body of a text over several lines: quotes may stand in it, one or two at a time, and right
before its end. -/
def bodyLines (quote : Char) (ending : String) (content : Reader (List Char)) : Reader (List Char) := do
  let first ← many content
  let runs ← many do
    let quotes ← innerQuotes quote (do let _ ← content)
    return quotes ++ (← many1 content).flatten
  let last ← maybe (innerQuotes quote (exactly ending))
  return first.flatten ++ runs.flatten ++ last.getD []

/-- Passes over a line end and all blanks and line ends behind it, from a backslash on. -/
def foldedLine : Reader Unit := do
  char '\\'
  blanks
  newline
  let _ ← many (or newline (do let _ ← takeWhile1 isBlank))

/-- Reads some of the characters of a text in three double quotes. -/
def basicLine : Reader (List Char) :=
  or (takeWhile1 isPlain) <|
    or (do let _ ← many1 foldedLine; return []) <|
      or (do return [← escaped]) (do newline; return ['\n'])

/-- Reads a text in three double quotes. -/
def basicLines : Reader String :=
  part "multiline basic string" do
    exactly "\"\"\""
    let _ ← maybe newline
    let cs ← commit (bodyLines '"' "\"\"\"" basicLine)
    commit (exactly "\"\"\"")
    return String.ofList cs

/-- Reads a text in three single quotes. -/
def literalLines : Reader String :=
  part "multiline literal string" do
    exactly "'''"
    let _ ← maybe newline
    let cs ← commit (bodyLines '\'' "'''"
      (or (do return [← satisfy isLiteral]) (do newline; return ['\n'])))
    commit (exactly "'''")
    return String.ofList cs

def quotedText : Reader String := or basicLines (or basicText (or literalLines literalText))

/-! ## Keys -/

/-- A character of a key without quotes. -/
def isKeyChar (c : Char) : Bool := c.isAlphanum || c == '-' || c == '_'

/-- Reads one part of a key. -/
def simpleKey : Reader String := do
  match ← next? with
  | some '"' => basicText
  | some '\'' => literalText
  | _ => return String.ofList (← takeWhile1 isKeyChar)

/-- The depth at which keys and values are refused. -/
def depthLimit : Nat := 80

/-- Reads a key: its parts with points between them. -/
def key : Reader (List String) := do
  let parts ← part "key" (separated1 (do
    blanks
    let name ← simpleKey
    blanks
    return name) (char '.'))
  if depthLimit ≤ parts.length then failFor .tooDeep else return parts

end NameCheck.Toml.Reader
