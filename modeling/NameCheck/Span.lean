/-!
Spans of a text: where a construct starts and ends, in bytes from the start of the text. Only a parse under way counts
them in characters.
-/
namespace NameCheck

/-- The bytes from `lo` up to, but not including, `hi`. -/
structure Span where
  lo : Nat
  hi : Nat
deriving DecidableEq, Repr, Inhabited

namespace Span

/-- The empty span at an offset. -/
def point (offset : Nat) : Span := ⟨offset, offset⟩

/-- The span between two offsets, whichever comes first. -/
def between (a b : Nat) : Span := ⟨min a b, max a b⟩

/-- The span with both ends counted another way. -/
def map (f : Nat → Nat) (span : Span) : Span := ⟨f span.lo, f span.hi⟩

end Span

end NameCheck
