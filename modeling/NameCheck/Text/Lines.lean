/-!
The lines of a text.
-/
namespace NameCheck.Text

/-- The lines of a text, without their ends. A line ends at a line feed, together with a carriage return right
before it; the last line needs no end. -/
def lines : List Char → List (List Char)
  | [] => []
  | '\r' :: '\n' :: rest => [] :: lines rest
  | '\n' :: rest => [] :: lines rest
  | c :: rest =>
    match lines rest with
    | [] => [[c]]
    | line :: more => (c :: line) :: more

end NameCheck.Text
