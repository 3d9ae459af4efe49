import NameCheck.Text.Blank
import NameCheck.Text.Pieces

/-!
Directives: line comments that switch rules off on one line. `Directives.isDisabled` answers whether a rule is
switched off there.
-/
namespace NameCheck

/-- Which rules are switched off on a line. -/
inductive Suppression where
  | all
  | rules (refs : List String)
deriving DecidableEq, Repr, Inhabited

namespace Suppression

/-- Whether a rule is switched off, given by its id or its name. -/
def covers : Suppression → String → Bool
  | .all, _ => true
  | .rules refs, ref => refs.contains ref

/-- Adds a reference that is not there yet. -/
def addRef (refs : List String) (ref : String) : List String :=
  if refs.contains ref then refs else refs ++ [ref]

/-- What two suppressions of one line switch off together. -/
def merge : Suppression → Suppression → Suppression
  | _, .all => .all
  | .all, .rules _ => .all
  | .rules refs, .rules more => .rules (more.foldl addRef refs)

end Suppression

/-- Suppressions by line, each line once. -/
structure Directives where
  entries : List (Nat × Suppression) := []
deriving DecidableEq, Repr, Inhabited

/-- Adds a suppression to the entries, merging it with that of the same line. -/
def suppressIn (line : Nat) (suppression : Suppression) :
    List (Nat × Suppression) → List (Nat × Suppression)
  | [] => [(line, suppression)]
  | (l, s) :: rest =>
    if l == line then (l, s.merge suppression) :: rest else (l, s) :: suppressIn line suppression rest

def entryOf (line : Nat) : List (Nat × Suppression) → Option Suppression
  | [] => none
  | (l, s) :: rest => if l == line then some s else entryOf line rest

namespace Directives

def suppress (d : Directives) (line : Nat) (suppression : Suppression) : Directives :=
  ⟨suppressIn line suppression d.entries⟩

/-- Whether a rule, given by its id or its name, is switched off on a line. -/
def isDisabled (d : Directives) (line : Nat) (ref : String) : Bool :=
  match entryOf line d.entries with
  | some s => s.covers ref
  | none => false

/-- The number of lines on which something is switched off. -/
def size (d : Directives) : Nat := d.entries.length

def isEmpty (d : Directives) : Bool := d.entries.isEmpty

/-- Directives that cannot be told apart by asking them. -/
structure Alike (d other : Directives) : Prop where
  isDisabled : ∀ line ref, d.isDisabled line ref = other.isDisabled line ref
  size : d.size = other.size

end Directives

/-! ## Reading directives -/

/-- The text after a leading word, if the text starts with it. -/
def stripWord (word : List Char) (cs : List Char) : Option (List Char) :=
  if word.isPrefixOf cs then some (cs.drop word.length) else none

/-- The references after the word of a directive; none if that word runs on. -/
def parseRefs (rest : List Char) : Option Suppression :=
  if (rest.head?.map Text.isBlank).getD true then
    let refs := ((Text.pieces ',' rest).map Text.trim).filter (!·.isEmpty)
    some (if refs.isEmpty then .all else .rules (refs.map String.ofList))
  else none

/-- The word that switches rules off on the next line. -/
def nextLineWord : List Char := "namelint-disable-next-line".toList

/-- The word that switches rules off on its own line. -/
def sameLineWord : List Char := "namelint-disable-line".toList

/-- The line and the suppression of a comment on a line, if it is a directive. -/
def parseDirective (line : Nat) (comment : List Char) : Option (Nat × Suppression) :=
  let comment := Text.trim comment
  match stripWord nextLineWord comment with
  | some rest => (parseRefs rest).map fun s => (line + 1, s)
  | none =>
    match stripWord sameLineWord comment with
    | some rest => (parseRefs rest).map fun s => (line, s)
    | none => none

/-- The directives among line comments, each given with its line. -/
def Directives.ofComments (comments : List (Nat × String)) : Directives :=
  comments.foldl (fun d (line, text) =>
    match parseDirective line text.toList with
    | some (target, suppression) => d.suppress target suppression
    | none => d) {}

end NameCheck
