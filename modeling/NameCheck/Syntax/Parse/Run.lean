import NameCheck.Syntax.Bytes
import NameCheck.Syntax.Parse.Item

/-!
Parsing a module. The parts of the grammar are tied together by depth: no text nests its parts deeper than a
multiple of its length.
-/
namespace NameCheck.Syntax

namespace Parser

/-- Reads a goal, given a reader of the goals inside it. -/
def step (read : Reader) : {α : Type} → Goal α → Parser α
  | _, .expression => expression read
  | _, .assignment => assignment read
  | _, .assignmentBase => assignmentBase read
  | _, .unary => unary read
  | _, .leftHand => leftHand read
  | _, .memberOrNew newAllowed => memberOrNew read newAllowed
  | _, .binaryRest left least => binaryRest read left least
  | _, .statement declarations => statement read declarations
  | _, .item => item read
  | _, .pattern => bindingPattern read
  | _, .properties lo => objectProperties read lo
  | _, .type => type read
  | _, .plainType => plainType read
  | _, .element inner => element read inner

/-- Reads a goal that nests at most `depth` deep. -/
def run : (depth : Nat) → {α : Type} → Goal α → Parser α
  | 0, _, _ => failHere .endOfText
  | depth + 1, _, goal => step (run depth) goal

/-- Reads the items of a module up to the end of the text. -/
def module (read : Reader) : Parser Module := do
  let items ← collectUntil atEnd (item read)
  return ⟨items⟩

end Parser

/-- What came of parsing a text: the module, unless the parse stopped, the problems in the order in which they
were met, and the line comments, which are known once the parse has seen the end of the text. -/
structure Outcome where
  module : Option Module
  problems : List Problem
  comments : List LineComment
deriving Inhabited

/-- The outcome with every offset counted another way. -/
def Outcome.mapOffsets (f : Nat → Nat) (outcome : Outcome) : Outcome where
  module := outcome.module.map (Module.mapOffsets f)
  problems := outcome.problems.map fun problem => { problem with span := problem.span.map f }
  comments := outcome.comments.map fun comment => { comment with offset := f comment.offset }

/-- How deep a text of a length may nest. -/
def depthFor (length : Nat) : Nat := 16 * length + 64

/-- What came of a parse that ended in a state; none if it met a tag that cannot be named. -/
def Outcome.of? (module : Option Module) (last : List Problem) (s : State) : Option Outcome :=
  if s.unnameable then none else some ⟨module, (last ++ s.problems).reverse, (s.known.getD []).reverse⟩

/-- What comes of a text, with offsets that count characters. -/
def outcome? (features : Features) (text : List Char) : Option Outcome :=
  match Parser.module (Parser.run (depthFor text.length)) (.start features text) with
  | .ok module s => Outcome.of? (some module) [] s
  | .error problem s => Outcome.of? none [problem] s

/-- Parses the text of a module; none if a tag in it cannot be named. -/
def parse? (features : Features) (text : List Char) : Option Outcome :=
  let offsets := byteOffsets text
  (outcome? features text).map (Outcome.mapOffsets fun offset => offsets.getD offset 0)

end NameCheck.Syntax
