/-!
Membership of a character in a sorted table of code point ranges.
-/
namespace NameCheck.Text

/-- Whether `code` lies in one of the ranges with index from `low` up to `high`, halving the table
`steps` times at most. -/
def searchRanges (table : Array (Nat × Nat)) (code : Nat) : (steps low high : Nat) → Bool
  | 0, _, _ => false
  | steps + 1, low, high =>
    if low < high then
      let middle := (low + high) / 2
      match table[middle]? with
      | none => false
      | some (first, last) =>
        if code < first then searchRanges table code steps low middle
        else if last < code then searchRanges table code steps (middle + 1) high
        else true
    else false

/-- Whether the character lies in one of the ranges of a sorted table of fewer than 2^20 ranges. -/
def inRanges (table : Array (Nat × Nat)) (c : Char) : Bool :=
  searchRanges table c.toNat 20 0 table.size

end NameCheck.Text
