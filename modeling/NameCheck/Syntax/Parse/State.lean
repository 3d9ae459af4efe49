import NameCheck.Syntax.Scan.Lexeme
import NameCheck.Syntax.Tree

/-!
The state of a parse and its basic steps. Tokens are scanned one at a time, because what a character starts
can depend on what the parser expects there. A step that fails keeps the state it failed in. Offsets count characters
all through a parse.
-/
namespace NameCheck.Syntax

/-- Which extensions of the language are read. -/
structure Features where
  markup : Bool
  types : Bool
deriving DecidableEq, Repr, Inhabited

/-- What surrounds the code being read, as far as it decides what is allowed. -/
structure Context where
  inAsync : Bool := false
  inGenerator : Bool := false
  inFunction : Bool := false
  inPlainFunction : Bool := false
  inParameters : Bool := false
  inClass : Bool := false
  inField : Bool := false
  inStaticBlock : Bool := false
  breakable : Bool := false
  continuable : Bool := false
  allowIn : Bool := true
  allowSuper : Bool := false
  inConditional : Bool := false
  colonFollows : Bool := false
  ambient : Bool := false
  abstractClass : Bool := false
  derivedClass : Bool := false
  noConditionalType : Bool := false
  loopHead : Bool := false
  awaitedLoop : Bool := false
deriving DecidableEq, Repr, Inhabited

/-- Where a parse stands: at a token, with the text from the start of the token on as its `source` and the `rest` of
the text after it. The comments are `known` once the end of the text was scanned, be it only to look
ahead. A parse is `stuck` at a regular expression without an end: every move scans it again. A tag that is
`unnameable` leaves the parse without an outcome. -/
structure State where
  features : Features
  token : Token
  span : Span
  spelling : String
  newline : Bool
  source : List Char
  rest : List Char
  previous : Span
  comments : List LineComment := []
  known : Option (List LineComment) := none
  stuck : Option Problem := none
  unnameable : Bool := false
  problems : List Problem := []
  silent : Bool := false
  context : Context := {}
  labels : List String := []
  arrowStart : Option Nat := none
  trailingCommas : List (Nat × Span) := []
deriving Inhabited

/-- A step of a parse. -/
abbrev Parser := EStateM Problem State

namespace State

/-- What is wrong with a scanned token. Where types are read, an octal number of the old form is wrong twice. -/
def problemsOf (features : Features) (lexeme : Lexeme) : List Problem :=
  match lexeme.token with
  | .number _ =>
    if features.types then lexeme.problems.flatMap fun problem =>
      if problem.fault = .legacyOctal then [{ problem with fault := .typedOctal }, problem] else [problem]
    else lexeme.problems
  | _ => lexeme.problems

/-- The state at the start of a text. A first line that starts with `#!` is passed over. -/
def start (features : Features) (text : List Char) : State :=
  let lexeme := match text with
    | '#' :: '!' :: rest => scanLexeme false .ignoredLine true 2 rest
    | _ => scanLexeme false .between true 0 text
  { features, known := if lexeme.token = .eof then some lexeme.comments.reverse else none
    token := lexeme.token, span := lexeme.span, spelling := lexeme.spelling
    newline := lexeme.newline, source := lexeme.source, rest := lexeme.rest
    previous := .point 0, comments := lexeme.comments.reverse, problems := (problemsOf features lexeme).reverse }

/-- The line comments that are known once a token is scanned. -/
def knownAfter (s : State) (lexeme : Lexeme) : Option (List LineComment) :=
  if lexeme.token = .eof then some (lexeme.comments.reverse ++ s.comments) else s.known

/-- Makes a scanned token the current one. -/
def enter (s : State) (lexeme : Lexeme) : State :=
  { s with
    known := s.knownAfter lexeme
    token := lexeme.token, span := lexeme.span, spelling := lexeme.spelling
    newline := lexeme.newline, source := lexeme.source, rest := lexeme.rest
    previous := s.span
    comments := lexeme.comments.reverse ++ s.comments
    problems := if s.silent then s.problems else (problemsOf s.features lexeme).reverse ++ s.problems }

/-- The token after the current one. -/
def next (s : State) : Lexeme :=
  match s.stuck with
  | some problem => ⟨.broken problem, .point s.span.hi, false, s.rest, s.rest, [], [], ""⟩
  | none => scanLexeme true .between false s.span.hi s.rest

def advance (s : State) : State := s.enter s.next

/-- Moves to the token after a text that the current token goes on with, up to `stop` and before `rest`. -/
def advancePast (s : State) (stop : Nat) (rest : List Char) : State :=
  { s with span := ⟨s.span.lo, stop⟩, rest }.advance

/-- How the current token is named in a complaint. -/
def tokenText (s : State) : String := s.token.describe s.spelling

/-- Adds a problem. A current token that could not be scanned is passed over, and its problem comes first. -/
def report (s : State) (span : Span) (fault : Fault) : State :=
  let s := match s.token with
    | .broken problem =>
      let s := s.advance
      { s with problems := problem :: s.problems }
    | _ => s
  { s with problems := ⟨span, fault⟩ :: s.problems }

/-- Goes back from a later state. What was seen of the end of the text stays known, and a tag that cannot be
named stays so. -/
def backFrom (s later : State) : State :=
  { s with known := later.known, unnameable := later.unnameable }

end State

namespace Parser

variable {α : Type}

/-- Reports a problem and goes on. -/
def report (span : Span) (fault : Fault) : Parser Unit :=
  modify fun s => if s.silent then s else s.report span fault

/-- Stops with a problem. A current token that could not be scanned is reported first and passed over. -/
def fail (span : Span) (fault : Fault) : Parser α := do
  match (← get).token with
  | .broken problem => do
    modify State.advance
    report problem.span problem.fault
  | _ => pure ()
  throw ⟨span, fault⟩

def failHere (fault : Fault) : Parser α := do fail (← get).span fault

/-- Stops because the current token is none of those wanted. -/
def unexpected (wanted : String) : Parser α := do failHere (.unexpectedToken (← get).tokenText wanted)

/-- Stops at a token that could not be scanned. -/
def checkScanned : Parser Unit := do
  match (← get).token with
  | .broken problem => do modify State.advance; throw problem
  | _ => pure ()

/-- Moves to the next token. -/
def bump : Parser Unit := modify State.advance

/-- Where the current token starts. -/
def here : Parser Nat := do return (← get).span.lo

/-- The span from an offset to the end of the token before the current one. -/
def spanFrom (lo : Nat) : Parser Span := do return ⟨lo, (← get).previous.hi⟩

def isMark (mark : Punct) : Parser Bool := do return (← get).token == .punct mark

def isWord (word : String) : Parser Bool := do return (← get).token == .word word

def isAnyWord : Parser Bool := do return (← get).token.isWord

def isName : Parser Bool := do return (← get).token.isName

def atEnd : Parser Bool := do return (← get).token == .eof

/-- Whether a line break stands before the current token. -/
def afterBreak : Parser Bool := do return (← get).newline

/-- The token after the current one, and whether a line break stands before it. -/
def peek : Parser (Token × Bool) := do
  let lexeme := (← get).next
  modify fun s => { s with known := s.knownAfter lexeme }
  return (lexeme.token, lexeme.newline)

def peekMark (mark : Punct) : Parser Bool := do return (← peek).1 == .punct mark

def peekWord (word : String) : Parser Bool := do return (← peek).1 == .word word

def peekName : Parser Bool := do return (← peek).1.isName

def typed : Parser Bool := do return (← get).features.types

def markedUp : Parser Bool := do return (← get).features.markup

/-- Passes over a mark if it stands here. -/
def eat (mark : Punct) : Parser Bool := do
  if ← isMark mark then
    bump
    return true
  else return false

def eatWord (word : String) : Parser Bool := do
  if ← isWord word then
    bump
    return true
  else return false

/-- Passes over a mark that has to stand here. -/
def expect (mark : Punct) : Parser Unit := do
  if !(← eat mark) then failHere (.expected mark.text (← get).tokenText)

def expectWord (word : String) : Parser Unit := do
  if !(← eatWord word) then failHere (.expected word (← get).tokenText)

/-- Whether a statement may end here: at a semicolon, a closing brace, the end or a line break. -/
def atStatementEnd : Parser Bool := do
  let s ← get
  return s.newline || s.token == .eof || s.token == .punct .semicolon || s.token == .punct .braceClose

/-- Ends a statement, passing over a semicolon if there is one; false if a statement cannot end here. -/
def eatSemicolon : Parser Bool := do
  if ← eat .semicolon then return true else atStatementEnd

def expectSemicolon : Parser Unit := do
  if !(← eatSemicolon) then failHere (.expected ";" (← get).tokenText)

/-- Runs a step in another context. -/
def inContext (change : Context → Context) (step : Parser α) : Parser α := fun s =>
  match step { s with context := change s.context } with
  | .ok a s' => .ok a { s' with context := s.context }
  | .error e s' => .error e { s' with context := s.context }

def context : Parser Context := do return (← get).context

/-- Runs a step with the labels of a new function body. -/
def withoutLabels (step : Parser α) : Parser α := do
  let saved := (← get).labels
  modify fun s => { s with labels := [] }
  let a ← step
  modify fun s => { s with labels := saved }
  return a

/-- Tries a step: if it fails or gives nothing, the state is as before. Problems met on the way are not
reported. -/
def attempt (step : Parser (Option α)) : Parser (Option α) := fun s =>
  match step { s with silent := true } with
  | .ok (some a) s' => .ok (some a) { s' with silent := s.silent }
  | .ok none s' => .ok none (s.backFrom s')
  | .error _ s' => .ok none (s.backFrom s')

/-- Asks a question about what follows and goes back; a failure means no. -/
def lookAhead (question : Parser Bool) : Parser Bool := fun s =>
  match question { s with silent := true } with
  | .ok answer s' => .ok answer (s.backFrom s')
  | .error _ s' => .ok false (s.backFrom s')

/-- Repeats a step, at most `bound` times, while it asks for more. -/
def repeatBounded {σ : Type} (step : σ → Parser (σ × Bool)) : (bound : Nat) → σ → Parser σ
  | 0, state => pure state
  | bound + 1, state => do
    let (state, more) ← step state
    if more then repeatBounded step bound state else return state

/-- Repeats a step while it asks for more. Every round that asks for more passes over a token, so the
rounds are bounded by the length of the text. -/
def repeatStep {σ : Type} (state : σ) (step : σ → Parser (σ × Bool)) : Parser σ := do
  repeatBounded step ((← get).rest.length + 3) state

/-- Collects what a step gives until a question is answered with yes. -/
def collectUntil (done : Parser Bool) (step : Parser α) : Parser (List α) := do
  let items ← repeatStep [] fun items => do
    if ← done then return (items, false)
    else
      let item ← step
      return (item :: items, true)
  return items.reverse

/-- Takes the first character of the current mark as a mark of its own, for marks of several angle
brackets. -/
def splitMark (mark : Punct) : Parser Unit := modify fun s =>
  match s.token with
  | .punct m =>
    match m.afterFirst? with
    | some tail =>
      if m != mark && m.text.startsWith mark.text then
        { s with token := .punct mark, span := ⟨s.span.lo, s.span.hi - tail.length⟩, rest := tail.toList ++ s.rest }
      else s
    | none => s
  | _ => s

/-- Passes over an opening angle bracket, which may be the first of two. -/
def expectLess : Parser Unit := do
  splitMark .lt
  expect .lt

/-- Passes over a closing angle bracket, which may be the first of several marks. -/
def expectGreater : Parser Unit := do
  splitMark .gt
  expect .gt

end Parser

end NameCheck.Syntax
