import NameCheck.Toml.Text
import NameCheck.Toml.Value

/-!
Numbers.
-/
namespace NameCheck.Toml.Reader

def digitOf? (radix : Nat) (c : Char) : Option Nat := (hexDigit? c).bind fun n => if n < radix then some n else none

/-- Reads a digit of a radix. -/
def digit (radix : Nat) : Reader Nat := do
  let c ← satisfy fun c => (digitOf? radix c).isSome
  return (digitOf? radix c).getD 0

/-- Reads further digits, with single separators between them. -/
def moreDigits (radix : Nat) : Reader (List Nat) :=
  many (or (digit radix) (do char '_'; expecting ["digit"] (commit (digit radix))))

/-- Reads digits, with single separators between them. -/
def digits (radix : Nat) : Reader (List Nat) := do return (← digit radix) :: (← moreDigits radix)

/-- The number with these digits. -/
def ofDigits (radix : Nat) (ds : List Nat) : Nat := ds.foldl (radix * · + ·) 0

/-- Reads a sign; true for a minus. -/
def sign : Reader Bool := do
  match ← maybe (satisfy fun c => c == '+' || c == '-') with
  | some c => return c == '-'
  | none => return false

/-- Reads an integer without leading zeros: its sign and its value. -/
def decimal : Reader (Bool × Nat) :=
  part "integer" do
    let negative ← sign
    let first ← digit 10
    if first = 0 then return (negative, 0)
    else return (negative, ofDigits 10 (first :: (← moreDigits 10)))

/-- The integer with a sign and a value, if it has at most 64 bits. -/
def bounded (negative : Bool) (n : Nat) : Except Cause Int :=
  if negative then if n ≤ Nat.pow 2 63 then .ok (-(n : Int)) else .error .tooSmall
  else if n < Nat.pow 2 63 then .ok n else .error .tooLarge

/-- Reads an integer in a radix, after the characters that announce the radix. -/
def radixInteger (mark name : String) (radix : Nat) : Reader Int :=
  commit do
    let ds ← part name (do exactly mark; commit (digits radix))
    accept (bounded false (ofDigits radix ds))

def integer : Reader Int := do
  match (← get).take 2 with
  | ['0', 'x'] => radixInteger "0x" "hexadecimal integer" 16
  | ['0', 'o'] => radixInteger "0o" "octal integer" 8
  | ['0', 'b'] => radixInteger "0b" "binary integer" 2
  | _ => do
    let (negative, n) ← decimal
    commit (accept (bounded negative n))

def exponent : Reader Int := do
  let _ ← satisfy fun c => c == 'e' || c == 'E'
  let negative ← sign
  let ds ← commit (digits 10)
  let n := ofDigits 10 ds
  return if negative then -(n : Int) else n

/-- Reads the digits after a point. -/
def fraction : Reader (List Nat) := do
  char '.'
  expecting ["digit"] (commit (digits 10))

/-- Reads a number with a point or an exponent. -/
def pointNumber : Reader Real := do
  let (negative, whole) ← decimal
  let (places, e) ← or (do return ([], ← exponent)) (do
    let places ← fraction
    return (places, (← maybe exponent).getD 0))
  let magnitude := Decimal.Magnitude.nearest (places.foldl (10 * · + ·) whole) (e - places.length)
  if !negative && magnitude == .infinite then commit fail else return .number negative magnitude

def infinity : Reader Real := do
  exactly "inf"
  return .number false .infinite

def notANumber : Reader Real := do
  exactly "nan"
  return .notANumber

/-- Reads a word for a special number, with its sign. -/
def specialNumber : Reader Real := do
  let negative ← sign
  match ← or infinity notANumber with
  | .number _ magnitude => return .number negative magnitude
  | .notANumber => return .notANumber

def real : Reader Real := part "floating-point number" (or pointNumber specialNumber)

end NameCheck.Toml.Reader
