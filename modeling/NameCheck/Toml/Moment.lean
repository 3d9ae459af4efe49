import NameCheck.Toml.Number

/-!
Days and times.
-/
namespace NameCheck.Toml.Reader

/-- Reads a number of exactly so many digits. -/
def fixedDigits (count : Nat) : Reader Nat := do
  let ds := ((← get).take count).filterMap (digitOf? 10)
  if ds.length = count then do
    set ((← get).drop count)
    return ofDigits 10 ds
  else fail

/-- Reads a number of two digits within bounds. -/
def twoDigits (least greatest : Nat) : Reader Nat := do
  let n ← fixedDigits 2
  if least ≤ n ∧ n ≤ greatest then return n else failFor .outOfRange

def daysOfMonth (year month : Nat) : Nat :=
  let leap := year % 4 = 0 ∧ (year % 100 ≠ 0 ∨ year % 400 = 0)
  if month = 2 then (if leap then 29 else 28)
  else if month = 4 ∨ month = 6 ∨ month = 9 ∨ month = 11 then 30
  else 31

def day : Reader Day := do
  let year ← fixedDigits 4
  char '-'
  commit do
    let month ← twoDigits 1 12
    char '-'
    let day ← twoDigits 1 31
    if day ≤ daysOfMonth year month then return ⟨year, month, day⟩ else failFor .outOfRange

/-- Reads parts of a second; what is finer than a billionth is dropped. -/
def secondParts : Reader Nat := do
  char '.'
  let ds ← many1 (digit 10)
  let kept := ds.take 9
  return ofDigits 10 kept * Nat.pow 10 (9 - kept.length)

def clock : Reader Clock := do
  let hour ← twoDigits 0 23
  char ':'
  commit do
    let minute ← twoDigits 0 59
    char ':'
    let second ← twoDigits 0 60
    let parts ← maybe secondParts
    return ⟨hour, minute, second, parts.getD 0⟩

def offset : Reader Offset :=
  part "time offset" do
    let mark ← satisfy fun c => c == 'Z' || c == 'z' || c == '+' || c == '-'
    if mark == 'Z' || mark == 'z' then return .zero
    else commit do
      let hours ← twoDigits 0 23
      char ':'
      let minutes ← twoDigits 0 59
      let total := hours * 60 + minutes
      return if mark == '-' && total != 0 then .behind total else .ahead total

/-- Reads a time after a day, with its offset. -/
def clockOfDay : Reader (Clock × Option Offset) := do
  let _ ← satisfy fun c => c == 'T' || c == 't' || c == ' '
  let clock ← clock
  return (clock, ← maybe offset)

def moment : Reader Moment :=
  or
    (part "date-time" do
      let day ← day
      match ← maybe clockOfDay with
      | some (clock, offset) => return { day := some day, clock := some clock, offset }
      | none => return { day := some day })
    (part "time" do return { clock := some (← clock) })

end NameCheck.Toml.Reader
