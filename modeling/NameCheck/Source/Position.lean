import NameCheck.Span
import NameCheck.Text.Utf8

/-!
Lines and columns of byte offsets. Lines end with a line feed only and columns count bytes, both from one.
An offset inside a character has no position.
-/
namespace NameCheck.Source

/-- A line and a column, both counted from one. -/
structure Position where
  line : Nat
  column : Nat
deriving DecidableEq, Repr, Inhabited

/-- The positions of both ends of a span. -/
structure Range where
  start : Position
  stop : Position
deriving DecidableEq, Repr, Inhabited

/-- The text after the last line feed. -/
def lastLine (cs : List Char) : List Char := (cs.reverse.takeWhile (· != '\n')).reverse

def positionAfter (before : List Char) : Position :=
  ⟨before.count '\n' + 1, Text.byteLength (lastLine before) + 1⟩

/-- The position of an offset, where an offset beyond the end is taken for the end. -/
def position? (source : List Char) (offset : Nat) : Option Position :=
  (Text.takeBytes? (min offset (Text.byteLength source)) source).map positionAfter

/-- The positions of the ends of a span. -/
def range? (source : List Char) (span : Span) : Option Range := do
  let start ← position? source span.lo
  let stop ← position? source span.hi
  return ⟨start, stop⟩

/-- The text of a span, if both its ends lie in the source and at the edge of a character. -/
def text? (source : List Char) (span : Span) : Option (List Char) :=
  if span.lo ≤ span.hi then do
    let tail ← Text.dropBytes? span.lo source
    Text.takeBytes? (span.hi - span.lo) tail
  else none

end NameCheck.Source
