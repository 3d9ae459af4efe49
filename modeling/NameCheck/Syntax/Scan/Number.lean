import NameCheck.Syntax.Scan.Name

/-!
Numeric literals.
-/
namespace NameCheck.Syntax

/-- A run of digits: their value, their number, where it ends and what was wrong with it. -/
structure Digits where
  value : Nat
  count : Nat
  stop : Nat
  rest : List Char
  problems : List Problem
deriving Inhabited

/-- The value of a digit of a radix. -/
def digitValue? (radix : Nat) (c : Char) : Option Nat :=
  (hexValue? c).bind fun n => if n < radix then some n else none

/-- Reads digits from `start` on. A separator has to stand before a digit; it is passed over in any case. -/
def scanDigits (radix start : Nat) (problems : List Problem) : (value count pos : Nat) → List Char → Digits
  | value, count, pos, [] => ⟨value, count, pos, [], problems⟩
  | value, count, pos, c :: rest =>
    if c == '_' then
      let follows := (rest.head?.bind (digitValue? radix)).isSome
      let problems := if follows then problems else problems ++ [⟨⟨start, pos + 1⟩, .misplacedSeparator⟩]
      scanDigits radix start problems value count (pos + 1) rest
    else match digitValue? radix c with
      | some n => scanDigits radix start problems (radix * value + n) (count + 1) (pos + 1) rest
      | none => ⟨value, count, pos, c :: rest, problems⟩

/-- A scanned token: where it ends, what follows it and what was wrong with it. -/
structure Scanned where
  token : Token
  stop : Nat
  rest : List Char
  problems : List Problem := []
deriving Inhabited

/-- A number has to end before the next name. -/
def finishNumber (token : Token) (stop : Nat) (rest : List Char) (problems : List Problem) : Scanned :=
  if (rest.head?.map Text.startsIdentifier).getD false then
    ⟨.broken ⟨.point stop, .nameAfterNumber⟩, stop, rest, problems⟩
  else ⟨token, stop, rest, problems⟩

/-- An integer written in a radix other than ten, after its two leading characters. -/
def scanRadix (radix pos : Nat) (cs : List Char) : Scanned :=
  let ds := scanDigits radix pos [] 0 0 pos cs
  if ds.count == 0 then ⟨.broken ⟨.point pos, .digitExpected radix⟩, ds.stop, ds.rest, ds.problems⟩
  else match ds.rest with
    | 'n' :: rest => finishNumber (.bigint ds.value) (ds.stop + 1) rest ds.problems
    | rest => finishNumber (.number (.ofQuotient ds.value 1)) ds.stop rest ds.problems

/-- What may follow the fraction of a decimal: an exponent. The decimal so far is `value` without its point,
`places` digits of it behind the point. -/
def scanExponent (value places pos : Nat) (cs : List Char) (problems : List Problem) : Scanned :=
  match cs with
  | c :: rest =>
    if c == 'e' || c == 'E' then
      match rest with
      | [] => ⟨.broken ⟨.point (pos + 1), .exponentExpected⟩, pos + 1, [], problems⟩
      | sign :: after =>
        let signed := sign == '-' || sign == '+'
        let start := if signed then pos + 2 else pos + 1
        let ds := scanDigits 10 start problems 0 0 start (if signed then after else rest)
        if ds.count == 0 then ⟨.broken ⟨.point start, .digitExpected 10⟩, ds.stop, ds.rest, ds.problems⟩
        else
          let exponent : Int := if sign == '-' then -(ds.value : Int) else ds.value
          finishNumber (.number (.nearest value (exponent - places))) ds.stop ds.rest ds.problems
    else finishNumber (.number (.nearest value (-(places : Int)))) pos cs problems
  | [] => finishNumber (.number (.nearest value (-(places : Int)))) pos cs problems

/-- What may follow the digits before the point of a decimal. -/
def scanFraction (whole pos : Nat) (cs : List Char) (problems : List Problem) : Scanned :=
  match cs with
  | '.' :: after =>
    let ds := scanDigits 10 (pos + 1) problems whole 0 (pos + 1) after
    scanExponent ds.value ds.count ds.stop ds.rest ds.problems
  | _ => scanExponent whole 0 pos cs problems

/-- A number that starts with zero and goes on with digits: octal if all of them are, which is a complaint about a
number that ends before the next name, and so is any decimal of this form. -/
def scanLegacy (pos : Nat) (cs : List Char) (ds : Digits) : Scanned :=
  let octal := scanDigits 8 pos [] 0 0 pos cs
  if octal.stop == ds.stop then
    let scanned := finishNumber (.number (.ofQuotient octal.value 1)) ds.stop ds.rest ds.problems
    match scanned.token with
    | .broken _ => scanned
    | _ => { scanned with problems := scanned.problems ++ [⟨⟨pos, ds.stop⟩, .legacyOctal⟩] }
  else scanFraction ds.value ds.stop ds.rest (ds.problems ++ [⟨⟨pos, ds.stop⟩, .legacyDecimal⟩])

/-- A number that starts with a digit and has no radix of its own. -/
def scanDecimal (pos : Nat) (cs : List Char) : Scanned :=
  let ds := scanDigits 10 pos [] 0 0 pos cs
  if cs.head? == some '0' && ds.stop != pos + 1 then scanLegacy pos cs ds
  else match ds.rest with
    | 'n' :: rest => finishNumber (.bigint ds.value) (ds.stop + 1) rest ds.problems
    | rest => scanFraction ds.value ds.stop rest ds.problems

/-- A numeric literal; the text starts with a digit, or with a point before one. -/
def scanNumber (pos : Nat) : List Char → Scanned
  | '.' :: rest => scanFraction 0 pos ('.' :: rest) []
  | '0' :: c :: rest =>
    if c == 'x' || c == 'X' then scanRadix 16 (pos + 2) rest
    else if c == 'o' || c == 'O' then scanRadix 8 (pos + 2) rest
    else if c == 'b' || c == 'B' then scanRadix 2 (pos + 2) rest
    else scanDecimal pos ('0' :: c :: rest)
  | cs => scanDecimal pos cs

end NameCheck.Syntax
