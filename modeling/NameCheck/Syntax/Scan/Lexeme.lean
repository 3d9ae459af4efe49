import NameCheck.Syntax.Scan.Markup

/-!
The scan for one token of code.
-/
namespace NameCheck.Syntax

/-- The mark that the text starts with. -/
def punct? (cs : List Char) : Option Punct := Punct.longestFirst.find? fun mark => mark.text.toList.isPrefixOf cs

/-- Scans a word. A word that starts with an escape is a plain name, and a reserved word has no escapes in it;
words that only strict code reserves count as such if `strict`. -/
def scanWord (strict : Bool) (pos : Nat) (cs : List Char) : Scanned :=
  let name := scanName pos cs
  let reserved := if strict then isReserved name.text else keywords.contains name.text
  let token := match name.failure with
    | some problem => .broken problem
    | none =>
      if cs.head? == some '\\' then .plainName name.text
      else if name.escaped && reserved then .broken ⟨⟨pos, name.stop⟩, .escapedKeyword name.text⟩
      else .word name.text
  ⟨token, name.stop, name.rest, name.problems⟩

/-- Scans a hidden name after its mark at `pos`. -/
def scanHidden (pos : Nat) (cs : List Char) : Scanned :=
  let name := scanName (pos + 1) cs
  let token := match name.failure with
    | some problem => .broken problem
    | none => .privateName name.text
  ⟨token, name.stop, name.rest, name.problems⟩

/-- Scans the back quote of a template, whose first piece has an end. -/
def scanBackQuote (pos : Nat) (cs : List Char) : Scanned :=
  match scanTemplate (pos + 1) cs with
  | (.unterminated, stop, rest) => ⟨.broken ⟨⟨pos, stop⟩, .unterminatedTemplate⟩, stop, rest, []⟩
  | _ => ⟨.punct .backtick, pos + 1, cs, []⟩

/-- Scans the token that starts at `pos`. A slash is always an operator here: whether a regular expression
starts there depends on what is expected. -/
def scanToken (strict : Bool) (pos : Nat) (cs : List Char) : Scanned :=
  match cs with
  | [] => ⟨.eof, pos, [], []⟩
  | c :: rest =>
    if c.isDigit || (c == '.' && ((rest.head?.map (·.isDigit)).getD false)) then scanNumber pos cs
    else if c == '"' || c == '\'' then scanString pos cs
    else if c == '`' then scanBackQuote pos rest
    else if startsName cs then scanWord strict pos cs
    else if c == '#' && startsName rest then scanHidden pos rest
    else match punct? cs with
      | some mark => ⟨.punct mark, pos + mark.text.length, cs.drop mark.text.length, []⟩
      | none => ⟨.broken ⟨⟨pos, pos + 1⟩, .unexpectedChar c⟩, pos + 1, rest, []⟩

/-- A token together with where it stands, the text from its start on and what was passed over before it. -/
structure Lexeme where
  token : Token
  span : Span
  newline : Bool
  source : List Char
  rest : List Char
  comments : List LineComment
  problems : List Problem
  spelling : String
deriving Inhabited

/-- How a literal is written: the first `size` characters of the text. Of other tokens it is not asked. -/
def spellingOf (token : Token) (size : Nat) (cs : List Char) : String :=
  match token with
  | .text _ | .number _ | .bigint _ | .markupText => String.ofList (cs.take size)
  | _ => ""

/-- Scans the next token after passing over what stands before it. The text starts in the given mode, at the
start of a line or not. -/
def scanLexeme (strict : Bool) (mode : TriviaMode) (atLineStart : Bool) (pos : Nat) (cs : List Char) : Lexeme :=
  let (trivia, start, cs) := Trivia.skip mode { newline := atLineStart } pos cs
  let scanned := scanToken strict start cs
  let (lo, source) := trivia.anchor.getD (start, cs)
  ⟨scanned.token, ⟨lo, scanned.stop⟩, trivia.newline, source, scanned.rest, trivia.comments,
    trivia.problems ++ scanned.problems, spellingOf scanned.token (scanned.stop - start) cs⟩

end NameCheck.Syntax
