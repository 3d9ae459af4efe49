/-!
Non-negative binary floating-point numbers of 53 bits, exact in natural numbers: `Magnitude.nearest`
rounds a decimal to one, and `Magnitude.digits` gives the fewest decimal digits that round back to it.
-/
namespace NameCheck.Decimal

/-- A value `mantissa · 2^exponent`, where a mantissa below `2^52` has the least exponent `-1074`. -/
inductive Magnitude where
  | finite (mantissa : Nat) (exponent : Int)
  | infinite
deriving DecidableEq, Repr, Inhabited

/-- `num / den` rounded to the nearest natural number, a half going to the even neighbour. -/
def roundQuotient (num den : Nat) : Nat :=
  let floor := num / den
  let twice := 2 * (num % den)
  if twice < den then floor
  else if den < twice then floor + 1
  else floor + floor % 2

/-- `2^n`, as a factor that is one for negative exponents. -/
def pow2 (n : Int) : Nat := Nat.pow 2 n.toNat

/-- The magnitude nearest to the quotient `num / den`. -/
def Magnitude.ofQuotient (num den : Nat) : Magnitude :=
  if num == 0 || den == 0 then .finite 0 (-1074)
  else
    -- an exponent for which the mantissa has 53 or 54 bits before rounding
    let guess : Int := (num.log2 : Int) - (den.log2 : Int) - 53
    let scaled (e : Int) : Nat := roundQuotient (num * pow2 (-e)) (den * pow2 e)
    let settle (e : Int) : Magnitude :=
      let m := scaled e
      let (m, e) := if m == Nat.pow 2 53 then (Nat.pow 2 52, e + 1) else (m, e)
      if 971 < e then .infinite else .finite m e
    let start := max guess (-1074)
    if scaled start < Nat.pow 2 53 then settle start
    else if scaled (start + 1) ≤ Nat.pow 2 53 then settle (start + 1)
    else settle (start + 2)

/-- The magnitude nearest to `digits · 10^scale`. Exponents so large that the answer is zero or infinite
anyway are not computed. -/
def Magnitude.nearest (digits : Nat) (scale : Int) : Magnitude :=
  if digits == 0 then .finite 0 (-1074)
  else
    let size : Int := (digits.log2 : Int) / 3 + 1
    if 400 < scale then .infinite
    else if scale + size < -400 then .finite 0 (-1074)
    else if 0 ≤ scale then .ofQuotient (digits * Nat.pow 10 scale.toNat) 1
    else .ofQuotient digits (Nat.pow 10 (-scale).toNat)

/-- The fewest decimal digits that round back to a value, and the power of ten of the last of them. The
interval from `lo` to `hi`, in units of `1 / den`, holds what rounds to the value `num / den`. -/
def shortestFrom (num den lo hi : Nat) (closed : Bool) (top : Int) : (count : Nat) → (used : Nat) → Nat × Int
  | 0, used => (num * Nat.pow 10 used / den, -(used : Int))
  | count + 1, used =>
    let k : Int := top - used - 1
    let unit := den * Nat.pow 10 k.toNat
    let up := Nat.pow 10 (-k).toNat
    let floor := num * up / unit
    let inside (d : Nat) : Bool :=
      if closed then lo * up ≤ d * unit && d * unit ≤ hi * up else lo * up < d * unit && d * unit < hi * up
    let below := inside floor
    let above := inside (floor + 1)
    let nearBelow := 2 * (num * up - floor * unit) ≤ unit
    if below && (!above || nearBelow) then (floor, k)
    else if above then (floor + 1, k)
    else shortestFrom num den lo hi closed top count (used + 1)

/-- The least power of ten from `j` on, tried at most `tries` times, that lifts `num / den` to one. -/
def liftingPower (num den : Nat) : (tries j : Nat) → Nat
  | 0, j => j
  | tries + 1, j => if den ≤ num * Nat.pow 10 j then j else liftingPower num den tries (j + 1)

/-- How many digits stand before the point of `num / den`, negative for zeros after the point. -/
def pointPlace (num den : Nat) : Int :=
  if den ≤ num then ((toString (num / den)).length : Int) else 1 - (liftingPower num den 400 1 : Int)

/-- The decimal digits of a finite magnitude and the power of ten of the last digit. -/
def shortestDigits (mantissa : Nat) (exponent : Int) : Nat × Int :=
  if mantissa == 0 then (0, 0)
  else
    let down := if mantissa == Nat.pow 2 52 && -1074 < exponent then 1 else 2
    let unit := pow2 exponent
    let den := 4 * pow2 (-exponent)
    let num := 4 * mantissa * unit
    let (digits, scale) :=
      shortestFrom num den (num - down * unit) (num + 2 * unit) (mantissa % 2 == 0) (pointPlace num den) 17 0
    -- the upper neighbour of 9…9 is 10…0, one digit after all
    if digits % 10 == 0 then (digits / 10, scale + 1) else (digits, scale)

/-- The number `digits · 10^scale` without an exponent. -/
def positional (digits : Nat) (scale : Int) : String :=
  let text := toString digits
  if 0 ≤ scale then text ++ String.ofList (List.replicate scale.toNat '0')
  else
    let places := (-scale).toNat
    let cs := text.toList
    if places < cs.length then
      String.ofList (cs.take (cs.length - places)) ++ "." ++ String.ofList (cs.drop (cs.length - places))
    else "0." ++ String.ofList (List.replicate (places - cs.length) '0') ++ text

/-- The shortest text that reads back as the magnitude, never with an exponent. -/
def Magnitude.text : Magnitude → String
  | .infinite => "inf"
  | .finite mantissa exponent =>
    let (digits, scale) := shortestDigits mantissa exponent
    positional digits scale

end NameCheck.Decimal
