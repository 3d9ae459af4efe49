import NameCheck.Decimal.Magnitude

/-!
Values of a configuration text.
-/
namespace NameCheck.Toml

/-- A floating-point number. -/
inductive Real where
  | number (negative : Bool) (magnitude : Decimal.Magnitude)
  | notANumber
deriving DecidableEq, Repr, Inhabited

/-- The text of a floating-point number; a finite one has a point. -/
def Real.text : Real → String
  | .notANumber => "NaN"
  | .number negative magnitude =>
    let sign := if negative then "-" else ""
    match magnitude with
    | .infinite => sign ++ "inf"
    | .finite .. =>
      let digits := magnitude.text
      sign ++ (if digits.toList.contains '.' then digits else digits ++ ".0")

structure Day where
  year : Nat
  month : Nat
  day : Nat
deriving DecidableEq, Repr, Inhabited

structure Clock where
  hour : Nat
  minute : Nat
  second : Nat
  nanosecond : Nat
deriving DecidableEq, Repr, Inhabited

/-- How far a clock is from the standard one. -/
inductive Offset where
  | zero
  | ahead (minutes : Nat)
  | behind (minutes : Nat)
deriving DecidableEq, Repr, Inhabited

/-- A day, a time, or both. -/
structure Moment where
  day : Option Day := none
  clock : Option Clock := none
  offset : Option Offset := none
deriving DecidableEq, Repr, Inhabited

/-- A number with leading zeros up to a width. -/
def padded (width n : Nat) : String :=
  let digits := toString n
  String.ofList (List.replicate (width - digits.length) '0') ++ digits

def Day.text (d : Day) : String := padded 4 d.year ++ "-" ++ padded 2 d.month ++ "-" ++ padded 2 d.day

/-- The text of a time, with as many places as it needs. -/
def Clock.text (c : Clock) : String :=
  let places := ((padded 9 c.nanosecond).toList.reverse.dropWhile (· == '0')).reverse
  padded 2 c.hour ++ ":" ++ padded 2 c.minute ++ ":" ++ padded 2 c.second ++
    (if c.nanosecond = 0 then "" else "." ++ String.ofList places)

def Offset.text : Offset → String
  | .zero => "Z"
  | .ahead n => "+" ++ padded 2 (n / 60) ++ ":" ++ padded 2 (n % 60)
  | .behind n => "-" ++ padded 2 (n / 60) ++ ":" ++ padded 2 (n % 60)

def Moment.text (m : Moment) : String :=
  (m.day.map Day.text).getD "" ++ (if m.day.isSome && m.clock.isSome then "T" else "") ++
    (m.clock.map Clock.text).getD "" ++ (m.offset.map Offset.text).getD ""

/-- How a table came to be: by a header of its own, on the way to one, by a dotted key, or written in one
line. -/
inductive Origin where
  | header
  | implied
  | dotted
  | inline
  | inlineDotted
deriving DecidableEq, Repr, Inhabited

/-- A value. The entries of a table keep the order in which they were written. -/
inductive Value where
  | text (value : String)
  | integer (value : Int)
  | real (value : Real)
  | boolean (value : Bool)
  | moment (value : Moment)
  | array (items : List Value)
  | table (origin : Origin) (entries : List (String × Value))
  | tables (items : List (List (String × Value)))
deriving Inhabited

abbrev Entries := List (String × Value)

mutual

/-- Whether two values are the same, part by part. -/
def Value.same : Value → Value → Bool
  | .text a, .text b => a = b
  | .integer a, .integer b => a = b
  | .real a, .real b => a = b
  | .boolean a, .boolean b => a = b
  | .moment a, .moment b => a = b
  | .array as, .array bs => sameItems as bs
  | .table origin as, .table other bs => origin = other && sameEntries as bs
  | .tables as, .tables bs => sameTables as bs
  | _, _ => false

def sameItems : List Value → List Value → Bool
  | [], [] => true
  | a :: as, b :: bs => a.same b && sameItems as bs
  | _, _ => false

def sameEntries : Entries → Entries → Bool
  | [], [] => true
  | (key, a) :: as, (other, b) :: bs => key = other && a.same b && sameEntries as bs
  | _, _ => false

def sameTables : List Entries → List Entries → Bool
  | [], [] => true
  | a :: as, b :: bs => sameEntries a b && sameTables as bs
  | _, _ => false

end

mutual

theorem Value.same_iff : (a b : Value) → (a.same b ↔ a = b)
  | .text _, b => by cases b <;> simp [Value.same]
  | .integer _, b => by cases b <;> simp [Value.same]
  | .real _, b => by cases b <;> simp [Value.same]
  | .boolean _, b => by cases b <;> simp [Value.same]
  | .moment _, b => by cases b <;> simp [Value.same]
  | .array as, b => by cases b <;> simp [Value.same, sameItems_iff as]
  | .table _ as, b => by cases b <;> simp [Value.same, sameEntries_iff as]
  | .tables as, b => by cases b <;> simp [Value.same, sameTables_iff as]

theorem sameItems_iff : (as bs : List Value) → (sameItems as bs ↔ as = bs)
  | [], bs => by cases bs <;> simp [sameItems]
  | a :: as, bs => by cases bs <;> simp [sameItems, a.same_iff, sameItems_iff as]

theorem sameEntries_iff : (as bs : Entries) → (sameEntries as bs ↔ as = bs)
  | [], bs => by cases bs <;> simp [sameEntries]
  | (_, a) :: as, bs => by rcases bs with _ | ⟨⟨_, _⟩, _⟩ <;> simp [sameEntries, a.same_iff, sameEntries_iff as]

theorem sameTables_iff : (as bs : List Entries) → (sameTables as bs ↔ as = bs)
  | [], bs => by cases bs <;> simp [sameTables]
  | a :: as, bs => by cases bs <;> simp [sameTables, sameEntries_iff a, sameTables_iff as]

end

instance : DecidableEq Value := fun a b => decidable_of_iff _ (a.same_iff b)

def Value.typeName : Value → String
  | .text _ => "string"
  | .integer _ => "integer"
  | .real _ => "float"
  | .boolean _ => "boolean"
  | .moment _ => "datetime"
  | .array _ => "array"
  | .table .inline _ | .table .inlineDotted _ => "inline table"
  | .table .. => "table"
  | .tables _ => "array of tables"

namespace Entries

/-- Replaces the value of a key that is there. -/
def replace (entries : Entries) (key : String) (value : Value) : Entries :=
  entries.map fun (k, v) => if k = key then (k, value) else (k, v)

def erase (entries : Entries) (key : String) : Entries := entries.filter (·.1 ≠ key)

end Entries

end NameCheck.Toml
