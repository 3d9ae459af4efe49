import NameCheck.Syntax.Scan.Quoted

/-!
Scanning inside markup: the text between tags, names with dashes and quoted attribute values.
-/
namespace NameCheck.Syntax

/-- The text between tags, up to the next tag or hole. A closing brace or angle bracket in it is a
complaint. -/
def markupTextRest (problems : List Problem) : Nat → List Char → Scanned
  | pos, [] => ⟨.markupText, pos, [], problems⟩
  | pos, c :: rest =>
    if c == '<' || c == '\x7b' then ⟨.markupText, pos, c :: rest, problems⟩
    else
      let found : List Problem :=
        if c == '>' then [⟨⟨pos, pos + 1⟩, .looseMarkup ">" "&gt;"⟩]
        else if c == '\x7d' then [⟨⟨pos, pos + 1⟩, .looseMarkup "\x7d" "&rbrace;"⟩]
        else []
      markupTextRest (problems ++ found) (pos + 1) rest

/-- The rest of a markup name, in which dashes may stand. -/
def markupNameRest : Nat → List Char → List Char → List Char × Nat × List Char
  | pos, name, [] => (name, pos, [])
  | pos, name, c :: rest =>
    if Text.continuesIdentifier c || c == '-' then markupNameRest (pos + 1) (c :: name) rest
    else (name, pos, c :: rest)

/-- A quoted attribute value, in which nothing is escaped. -/
def attributeRest (quote : Char) (start : Nat) : Nat → List Char → Scanned
  | pos, [] => ⟨.text "", pos, [], [⟨⟨start, pos⟩, .unterminatedString⟩]⟩
  | pos, c :: rest =>
    if c == quote then ⟨.text "", pos + 1, rest, []⟩ else attributeRest quote start (pos + 1) rest

end NameCheck.Syntax
