/-!
Moments of time as the log writes them.
-/
namespace NameCheck.Log

structure Day where
  year : Nat
  month : Nat
  day : Nat
deriving DecidableEq, Repr, Inhabited

/-- The day that comes `days` days after the first of January 1970. Years are counted from March, so that the day
a leap year adds is the last of its year; 400 years have 146097 days. -/
def Day.ofNumber (days : Nat) : Day :=
  let shifted := days + 719468
  let era := shifted / 146097
  let ofEra := shifted % 146097
  let yearOfEra := (ofEra - ofEra / 1460 + ofEra / 36524 - ofEra / 146096) / 365
  let ofYear := ofEra - (365 * yearOfEra + yearOfEra / 4 - yearOfEra / 100)
  let shiftedMonth := (5 * ofYear + 2) / 153
  let month := if shiftedMonth < 10 then shiftedMonth + 3 else shiftedMonth - 9
  { year := era * 400 + yearOfEra + (if month ≤ 2 then 1 else 0)
    month
    day := ofYear - (153 * shiftedMonth + 2) / 5 + 1 }

/-- A number with zeros in front of it up to a width. -/
def padded (width n : Nat) : String :=
  let digits := toString n
  String.ofList (List.replicate (width - digits.length) '0') ++ digits

/-- A moment, given by the microseconds since the start of 1970, as date and time of day. -/
def momentText (microseconds : Nat) : String :=
  let seconds := microseconds / 1000000
  let date := Day.ofNumber (seconds / 86400)
  let clock := seconds % 86400
  padded 4 date.year ++ "-" ++ padded 2 date.month ++ "-" ++ padded 2 date.day ++ "T" ++
    padded 2 (clock / 3600) ++ ":" ++ padded 2 (clock / 60 % 60) ++ ":" ++ padded 2 (clock % 60) ++ "." ++
    padded 6 (microseconds % 1000000) ++ "Z"

end NameCheck.Log
