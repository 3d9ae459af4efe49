import NameCheck.Source.Position
import NameCheck.Text.Width

/-!
Lines and columns as a terminal shows them. A line feed, a carriage return or both in a row end a line, unless the
text ends with them. A column counts the width of what stands before it, where a character of two 16-bit units counts
one column more.
-/
namespace NameCheck.Source

/-- The columns that a character moves the column on. -/
def displayStep (c : Char) : Nat := Text.charWidth c + if c.toNat < 0x10000 then 0 else 1

/-- The position after the next `bytes` bytes, from a position on. -/
def displayFrom (line column : Nat) : (bytes : Nat) → List Char → Position
  | 0, _ => ⟨line, column⟩
  | _ + 1, [] => ⟨line, column⟩
  | bytes + 1, '\n' :: rest =>
    if rest.isEmpty then ⟨line, column + 1⟩ else displayFrom (line + 1) 1 bytes rest
  | bytes + 1, '\r' :: rest =>
    if rest.isEmpty || rest.head? == some '\n' then displayFrom line (column + 1) bytes rest
    else displayFrom (line + 1) 1 bytes rest
  | bytes + 1, c :: rest =>
    displayFrom line (column + displayStep c) (bytes + 1 - c.utf8Size) rest
termination_by structural _ cs => cs

/-- The position of an offset as a terminal shows it. -/
def displayPosition (source : List Char) (offset : Nat) : Position := displayFrom 1 1 offset source

end NameCheck.Source
