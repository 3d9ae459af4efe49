import NameCheck.Json.Quoted
import NameCheck.Json.Value

/-!
The text of a report for programs: on one line, or with each item and member on a line of its own, two blanks
deeper than what holds it.
-/
namespace NameCheck.Json

def digits (n : Nat) : List Char := Nat.toDigits 10 n

def truth (b : Bool) : List Char := (if b then "true" else "false").toList

/-- The start of a line at a depth. -/
def newLine (depth : Nat) : List Char := '\n' :: List.replicate (2 * depth) ' '

mutual

/-- A value over several lines, whose own line is at a depth. -/
def prettyValue (depth : Nat) : Json → List Char
  | .bool value => truth value
  | .number value => digits value
  | .text value => quoted value
  | .array [] => ['[', ']']
  | .array (item :: items) =>
    '[' :: (newLine (depth + 1) ++ prettyValue (depth + 1) item ++ prettyItems depth items ++ newLine depth ++ [']'])
  | .object [] => ['\x7b', '\x7d']
  | .object (member :: members) =>
    '\x7b' :: (newLine (depth + 1) ++ prettyMember depth member ++ prettyMembers depth members ++ newLine depth ++
      ['\x7d'])

def prettyItems (depth : Nat) : List Json → List Char
  | [] => []
  | item :: items =>
    ',' :: (newLine (depth + 1) ++ prettyValue (depth + 1) item ++ prettyItems depth items)

def prettyMembers (depth : Nat) : List (String × Json) → List Char
  | [] => []
  | member :: members =>
    ',' :: (newLine (depth + 1) ++ prettyMember depth member ++ prettyMembers depth members)

def prettyMember (depth : Nat) : String × Json → List Char
  | (key, value) => quoted key ++ [':', ' '] ++ prettyValue (depth + 1) value

end

/-- The text of a value over several lines. -/
def pretty (value : Json) : String := String.ofList (prettyValue 0 value)

mutual

def compactValue : Json → List Char
  | .bool value => truth value
  | .number value => digits value
  | .text value => quoted value
  | .array [] => ['[', ']']
  | .array (item :: items) => '[' :: (compactValue item ++ compactItems items ++ [']'])
  | .object [] => ['\x7b', '\x7d']
  | .object (member :: members) => '\x7b' :: (compactMember member ++ compactMembers members ++ ['\x7d'])

def compactItems : List Json → List Char
  | [] => []
  | item :: items => ',' :: (compactValue item ++ compactItems items)

def compactMembers : List (String × Json) → List Char
  | [] => []
  | member :: members => ',' :: (compactMember member ++ compactMembers members)

def compactMember : String × Json → List Char
  | (key, value) => quoted key ++ (':' :: compactValue value)

end

/-- The text of a value on one line. -/
def compact (value : Json) : String := String.ofList (compactValue value)

end NameCheck.Json
