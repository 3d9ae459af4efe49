import NameCheck.Syntax.Fault

/-!
What stands between tokens: white space, line breaks and comments. Scanners count offsets in characters.
-/
namespace NameCheck.Syntax

/-- A comment that runs from `//` to the end of its line. -/
structure LineComment where
  offset : Nat
  text : String
deriving DecidableEq, Repr, Inhabited

/-- A character that ends a line of code. -/
def isLineBreak (c : Char) : Bool :=
  c == '\n' || c == '\r' || c.toNat == 0x2028 || c.toNat == 0x2029

/-- White space of code other than line breaks. -/
def isSpace (c : Char) : Bool :=
  let n := c.toNat
  n == 9 || n == 11 || n == 12 || n == 0x20 || n == 0x85 || n == 0xa0 || n == 0xfeff || n == 0x1680 ||
    (0x2000 ≤ n && n ≤ 0x200a) || n == 0x202f || n == 0x205f || n == 0x3000

/-- What was passed over before a token. The token counts from the first old-style comment before it, if there
is one: from where that comment stands, with the text from there on. -/
structure Trivia where
  newline : Bool
  anchor : Option (Nat × List Char) := none
  comments : List LineComment := []
  problems : List Problem := []
deriving Inhabited

/-- Where the scan for the next token stands. -/
inductive TriviaMode where
  | between
  | line (start : Nat) (text : List Char)
  | ignoredLine
  | block
deriving Inhabited

namespace Trivia

/-- Records a finished line comment, whose text comes in reverse. -/
def comment (t : Trivia) (start : Nat) (text : List Char) : Trivia :=
  { t with comments := t.comments ++ [⟨start, String.ofList text.reverse⟩] }

def lineBreak (t : Trivia) : Trivia := { t with newline := true }

def problem (t : Trivia) (span : Span) (fault : Fault) : Trivia :=
  { t with problems := t.problems ++ [⟨span, fault⟩] }

/-- Records that an old-style comment starts, with which the text goes on. -/
def legacy (t : Trivia) (pos size : Nat) (text : List Char) : Trivia :=
  { t.problem ⟨pos, pos + size⟩ .legacyComment with anchor := some (t.anchor.getD (pos, text)) }

/-- Passes over white space and comments; answers where the next token starts. A line that starts with
`-->`, like `<!--` anywhere, is a comment that modules complain about. -/
def skip : TriviaMode → Trivia → Nat → List Char → Trivia × Nat × List Char
  | .between, t, pos, '/' :: '/' :: rest => skip (.line pos []) t (pos + 2) rest
  | .between, t, pos, '/' :: '*' :: rest => skip .block t (pos + 2) rest
  | .between, t, pos, '<' :: '!' :: '-' :: '-' :: rest =>
    skip (.line pos []) (t.legacy pos 4 ('<' :: '!' :: '-' :: '-' :: rest)) (pos + 4) rest
  | .between, t, pos, '-' :: '-' :: '>' :: rest =>
    if t.newline then skip (.line pos []) (t.legacy pos 3 ('-' :: '-' :: '>' :: rest)) (pos + 3) rest
    else (t, pos, '-' :: '-' :: '>' :: rest)
  | .between, t, pos, c :: rest =>
    if isLineBreak c then skip .between t.lineBreak (pos + 1) rest
    else if isSpace c then skip .between t (pos + 1) rest
    else (t, pos, c :: rest)
  | .between, t, pos, [] => (t, pos, [])
  | .line start text, t, pos, c :: rest =>
    if isLineBreak c then skip .between (t.comment start text).lineBreak (pos + 1) rest
    else skip (.line start (c :: text)) t (pos + 1) rest
  | .line start text, t, pos, [] => (t.comment start text, pos, [])
  | .ignoredLine, t, pos, c :: rest =>
    if isLineBreak c then skip .between t.lineBreak (pos + 1) rest
    else skip .ignoredLine t (pos + 1) rest
  | .ignoredLine, t, pos, [] => (t, pos, [])
  | .block, t, pos, '*' :: '/' :: rest => skip .between t (pos + 2) rest
  | .block, t, pos, c :: rest =>
    skip .block (if isLineBreak c then t.lineBreak else t) (pos + 1) rest
  | .block, t, pos, [] => (t.problem (.point pos) .unterminatedComment, pos, [])
termination_by structural _ _ _ cs => cs

end Trivia

end NameCheck.Syntax
