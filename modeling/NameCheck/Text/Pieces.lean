/-!
The pieces of a text between separators.
-/
namespace NameCheck.Text

/-- The pieces of a text between separators; a text without separators is one piece. -/
def pieces (separator : Char) : List Char → List (List Char)
  | [] => [[]]
  | c :: rest =>
    if c = separator then [] :: pieces separator rest
    else match pieces separator rest with
      | [] => [[c]]
      | piece :: more => (c :: piece) :: more

end NameCheck.Text
