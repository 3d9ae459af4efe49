import NameCheck.Syntax.Token
import NameCheck.Text.Identifier

/-!
Names and the escapes in them: a name may spell a character by its code point.
-/
namespace NameCheck.Syntax

def hexValue? (c : Char) : Option Nat :=
  if '0' ≤ c && c ≤ '9' then some (c.toNat - '0'.toNat)
  else if 'a' ≤ c && c ≤ 'f' then some (c.toNat - 'a'.toNat + 10)
  else if 'A' ≤ c && c ≤ 'F' then some (c.toNat - 'A'.toNat + 10)
  else none

/-- The value of a run of hexadecimal digits, if all characters are such digits. -/
def hexNumber? (cs : List Char) : Option Nat :=
  cs.foldl (fun total c => total.bind fun n => (hexValue? c).map (16 * n + ·)) (some 0)

/-- The code point of an escape after its `\u`, the characters it fills there, and what follows it. -/
def codePoint? : List Char → Option (Nat × Nat × List Char)
  | '{' :: rest =>
    let digits := rest.takeWhile (· != '}')
    match rest.dropWhile (· != '}') with
    | _ :: after =>
      if digits.isEmpty then none
      else (hexNumber? digits).bind fun n =>
        if n ≤ 0x10ffff then some (n, digits.length + 2, after) else none
    | [] => none
  | a :: b :: c :: d :: rest => (hexNumber? [a, b, c, d]).map fun n => (n, 4, rest)
  | _ => none

/-- The characters that an escape stands for when it spells a code point in the first `size` characters of
`spelled`. Half of a surrogate pair is no character and stays an escape. -/
def codePointText (n size : Nat) (spelled : List Char) : List Char :=
  if 0xd800 ≤ n && n ≤ 0xdfff then '\\' :: 'u' :: spelled.take size else [Char.ofNat n]

/-- Why no code point is spelled after a `\u`, and how many characters after it the complaint stands. -/
def codePointFault : List Char → Fault × Nat
  | '{' :: rest =>
    let digits := rest.takeWhile fun c => (hexValue? c).isSome
    let size := digits.length + 1
    match digits, hexNumber? digits with
    | [], _ | _, none => (.badEscape "1-6 hex characters", size)
    | _, some n =>
      if 0xffffffff < n then (.invalidEscape, 1)
      else if 0x10ffff < n then (.badEscape "1-6 hex characters in the range 0 to 10FFFF.", size)
      else (.invalidEscape, 1)
  | cs => (.badEscape "4 hex characters", ((cs.take 4).takeWhile fun c => (hexValue? c).isSome).length)

/-- A scanned name: its text, whether an escape spells a part of it, where it ends, what follows it, complaints
about it and why it is no name at all. -/
structure ScannedName where
  text : String
  escaped : Bool
  stop : Nat
  rest : List Char
  problems : List Problem
  failure : Option Problem
deriving Inhabited

/-- The rest of a name whose characters so far come in reverse. An escape that spells no character of a name is a
complaint; one that spells nothing leaves no name. -/
def nameRest (problems : List Problem) (escaped : Bool) :
    (fuel : Nat) → (name : List Char) → Nat → List Char → ScannedName
  | 0, name, pos, cs => ⟨String.ofList name.reverse, escaped, pos, cs, problems, none⟩
  | fuel + 1, name, pos, '\\' :: 'u' :: rest =>
    match codePoint? rest with
    | some (n, size, after) =>
      let spelled := codePointText n size rest
      let fits := match spelled with
        | c :: _ => if name.isEmpty then Text.startsIdentifier c else Text.continuesIdentifier c
        | [] => true
      let stop := pos + 2 + size
      let found := if fits then [] else [⟨⟨pos, stop⟩, .invalidNameChar⟩]
      nameRest (problems ++ found) true fuel (spelled.reverse ++ name) stop after
    | none =>
      let (fault, size) := codePointFault rest
      ⟨"", true, pos + 2, rest, problems, some ⟨.point (pos + 2 + size), fault⟩⟩
  | _ + 1, _, pos, '\\' :: rest => ⟨"", true, pos + 1, rest, problems, some ⟨.point pos, .escapeExpected⟩⟩
  | fuel + 1, name, pos, c :: rest =>
    if Text.continuesIdentifier c then nameRest problems escaped fuel (c :: name) (pos + 1) rest
    else ⟨String.ofList name.reverse, escaped, pos, c :: rest, problems, none⟩
  | _ + 1, name, pos, [] => ⟨String.ofList name.reverse, escaped, pos, [], problems, none⟩

def startsName : List Char → Bool
  | c :: _ => c == '\\' || Text.startsIdentifier c
  | [] => false

def scanName (pos : Nat) (cs : List Char) : ScannedName := nameRest [] false cs.length [] pos cs

end NameCheck.Syntax
