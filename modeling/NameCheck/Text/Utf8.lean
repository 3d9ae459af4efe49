/-!
Byte lengths of texts in UTF-8.
-/
namespace NameCheck.Text

def byteLength : List Char → Nat
  | [] => 0
  | c :: cs => c.utf8Size + byteLength cs

/-- The text after its first `offset` bytes, if a character starts there. -/
def dropBytes? : Nat → List Char → Option (List Char)
  | 0, cs => some cs
  | _ + 1, [] => none
  | offset + 1, c :: cs => if c.utf8Size ≤ offset + 1 then dropBytes? (offset + 1 - c.utf8Size) cs else none

/-- The first `offset` bytes of a text, if they end where a character ends. -/
def takeBytes? : Nat → List Char → Option (List Char)
  | 0, _ => some []
  | _ + 1, [] => none
  | offset + 1, c :: cs =>
    if c.utf8Size ≤ offset + 1 then (takeBytes? (offset + 1 - c.utf8Size) cs).map (c :: ·) else none

end NameCheck.Text
