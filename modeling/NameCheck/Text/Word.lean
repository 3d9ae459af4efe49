import NameCheck.Text.Identifier

/-!
Word characters, between which there is no word boundary: letters, letter-like numbers, marks, decimal
digits, connecting punctuation, circled letters and the two joiners.
-/
namespace NameCheck.Text

/-- Word characters that cannot stand in an identifier: enclosing marks and circled letters. -/
def circledLetters : Array (Nat × Nat) := #[
  (0x488, 0x489), (0x1abe, 0x1abe), (0x20dd, 0x20e0), (0x20e2, 0x20e4), (0x24b6, 0x24e9),
  (0x2e2f, 0x2e2f), (0xa670, 0xa672), (0x1f130, 0x1f149), (0x1f150, 0x1f169), (0x1f170, 0x1f189)]

/-- Characters of identifiers that are no word characters. -/
def wordless : Array (Nat × Nat) := #[
  (0xb7, 0xb7), (0x387, 0x387), (0x1369, 0x1371), (0x19da, 0x19da), (0x2118, 0x2118),
  (0x212e, 0x212e), (0x309b, 0x309c), (0x30fb, 0x30fb), (0xff65, 0xff65)]

def isWord (c : Char) : Bool :=
  if c.toNat < 128 then c.isAlphanum || c == '_'
  else (continuesIdentifier c && !inRanges wordless c) || inRanges circledLetters c

end NameCheck.Text
