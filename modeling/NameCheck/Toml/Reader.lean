import NameCheck.Toml.Failure

/-!
Readers of configuration text, and the blanks, comments and line ends between its parts.
-/
namespace NameCheck.Toml

/-- A step of reading: what is read and the rest of the text, or a failure. -/
abbrev Reader := StateT (List Char) (Except Failure)

namespace Reader

variable {α β : Type}

/-! ## Ways of reading -/

/-- Fails without a reason. -/
def fail : Reader α := fun _ => .error {}

def failFor (cause : Cause) : Reader α := fun _ => .error { cause := some cause }

/-- Continues with a result that may be refused for a cause. -/
def accept : Except Cause α → Reader α
  | .ok a => pure a
  | .error cause => failFor cause

/-- Changes the failure of a step. -/
def onFailure (change : Failure → Failure) (step : Reader α) : Reader α := fun cs =>
  match step cs with
  | .ok result => .ok result
  | .error failure => .error (change failure)

/-- Makes the failure of a step fatal. -/
def commit (step : Reader α) : Reader α := step.onFailure ({ · with fatal := true })

/-- Names the part that a step reads. -/
def part (name : String) (step : Reader α) : Reader α :=
  step.onFailure fun f => { f with part := f.part.or (some name) }

/-- Adds to what a step expects. -/
def expecting (what : List String) (step : Reader α) : Reader α :=
  step.onFailure fun f => { f with expected := f.expected ++ what }

/-- Reads something or nothing. -/
def maybe (step : Reader α) : Reader (Option α) := fun cs =>
  match step cs with
  | .ok (a, rest) => .ok (some a, rest)
  | .error failure => if failure.fatal then .error failure else .ok (none, cs)

/-- Reads in the first way, or else in the second. -/
def or (first second : Reader α) : Reader α := fun cs =>
  match first cs with
  | .ok result => .ok result
  | .error failure => if failure.fatal then .error failure else second cs

/-- Reads ahead without passing over anything. -/
def ahead (step : Reader α) : Reader α := fun cs =>
  match step cs with
  | .ok (a, _) => .ok (a, cs)
  | .error failure => .error failure

/-- Repeats a step, at most `bound` times, as long as it succeeds. -/
def manyBounded (step : Reader α) : (bound : Nat) → Reader (List α)
  | 0 => pure []
  | bound + 1 => do
    match ← maybe step with
    | none => return []
    | some a => return a :: (← manyBounded step bound)

/-- Repeats a step as long as it succeeds. Every round passes over a character, so the rounds are bounded by
the length of the text. -/
def many (step : Reader α) : Reader (List α) := do manyBounded step (← get).length

def many1 (step : Reader α) : Reader (List α) := do return (← step) :: (← many step)

/-- Reads items with a separator between them; one or more. -/
def separated1 (item : Reader α) (separator : Reader β) : Reader (List α) := do
  return (← item) :: (← many (do let _ ← separator; item))

def separated (item : Reader α) (separator : Reader β) : Reader (List α) := do
  return (← maybe (separated1 item separator)).getD []

/-! ## Characters -/

/-- The next character, if there is one. -/
def next? : Reader (Option Char) := do return (← get).head?

/-- Reads a character of a class. -/
def satisfy (p : Char → Bool) : Reader Char := fun cs =>
  match cs with
  | c :: rest => if p c then .ok (c, rest) else .error {}
  | [] => .error {}

def char (c : Char) : Reader Unit := do let _ ← satisfy (· == c)

/-- Reads a text. -/
def exactly (text : String) : Reader Unit := fun cs =>
  if text.toList.isPrefixOf cs then .ok ((), cs.drop text.toList.length) else .error {}

/-- Reads characters of a class, as many as there are. -/
def takeWhile (p : Char → Bool) : Reader (List Char) := fun cs => .ok (cs.takeWhile p, cs.dropWhile p)

/-- Reads characters of a class, one or more. -/
def takeWhile1 (p : Char → Bool) : Reader (List Char) := do
  let c ← satisfy p
  return c :: (← takeWhile p)

/-- Succeeds at the end of the text. -/
def eof : Reader Unit := fun cs => if cs.isEmpty then .ok ((), cs) else .error {}

/-! ## Blanks and line ends -/

/-- A blank within a line. -/
def isBlank (c : Char) : Bool := c == ' ' || c == '\t'

/-- A character outside ASCII. -/
def isWide (c : Char) : Bool := 0x80 ≤ c.toNat

/-- A character that may stand in a comment. -/
def isCommentChar (c : Char) : Bool := c == '\t' || (0x20 ≤ c.toNat && c.toNat ≤ 0x7e) || isWide c

def blanks : Reader Unit := do let _ ← takeWhile isBlank

/-- Reads the end of a line. -/
def newline : Reader Unit := or (char '\n') (exactly "\r\n")

/-- Reads a comment, up to the end of its line. -/
def comment : Reader Unit := do
  char '#'
  let _ ← takeWhile isCommentChar

/-- Reads the end of a line or of the text. -/
def lineEnd : Reader Unit := or newline eof

/-- Reads what may follow on a line: blanks, a comment and the end of the line. -/
def lineRest : Reader Unit := do
  blanks
  let _ ← maybe comment
  lineEnd

/-- Reads the rest of a line, which has to hold nothing more. -/
def lastOfLine : Reader Unit := expecting ["newline", "`#`"] lineRest

/-- Passes over blanks, comments and line ends, at most `bound` lines. -/
def gapBounded : (bound : Nat) → Reader Unit
  | 0 => pure ()
  | bound + 1 => do
    blanks
    match ← next? with
    | some '#' => do
      comment
      newline
      gapBounded bound
    | some '\n' | some '\r' => do
      newline
      gapBounded bound
    | _ => pure ()

/-- Passes over blanks, comments and line ends. -/
def gap : Reader Unit := do gapBounded ((← get).length + 1)

end Reader

end NameCheck.Toml
