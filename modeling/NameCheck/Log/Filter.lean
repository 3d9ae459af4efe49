import NameCheck.Log.Event
import NameCheck.Text.Pieces

/-!
Which events of a log are kept. Directives give a least level, for all sources or for those whose name starts
with a text; the longest such text counts.
-/
namespace NameCheck.Log

/-- A directive: the least level that is kept, none to keep nothing, for some sources or for all. -/
structure Directive where
  source : Option String
  least : Option Level
deriving DecidableEq, Repr, Inhabited

/-- The least level that a word or a number asks for. -/
def threshold? (text : String) : Option (Option Level) :=
  match text.toLower with
  | "off" | "0" => some none
  | "error" | "1" => some (some .error)
  | "warn" | "2" => some (some .warn)
  | "info" | "3" => some (some .info)
  | "debug" | "4" => some (some .debug)
  | "trace" | "5" => some (some .trace)
  | _ => none

/-- Whether a text can name sources. -/
def isSourceText (cs : List Char) : Bool :=
  !cs.isEmpty && cs.all fun c => c.isAlphanum || c == '_' || c == ':' || c == '-'

/-- Reads a directive. A name alone keeps everything from its sources. -/
def Directive.read? (text : String) : Option Directive :=
  match threshold? text with
  | some least => some ⟨none, least⟩
  | none =>
    let cs := text.toList
    let source := cs.takeWhile (· ≠ '=')
    if !isSourceText source then none
    else match cs.dropWhile (· ≠ '=') with
      | [] | [_] => some ⟨some (String.ofList source), some .trace⟩
      | _ :: level => (threshold? (String.ofList level)).map fun least => ⟨some (String.ofList source), least⟩

/-- How specific a directive is: the longer its text, the more. -/
def Directive.weight (d : Directive) : Nat := (d.source.map fun text => text.length + 1).getD 0

/-- Whether a directive is about a source. -/
def Directive.covers (d : Directive) (source : String) : Bool :=
  (d.source.map fun text => text.toList.isPrefixOf source.toList).getD true

/-- A filter: directives, the later before the earlier where they are equally specific. -/
structure Filter where
  directives : List Directive
deriving DecidableEq, Repr, Inhabited

namespace Filter

/-- The directive that decides about a source. -/
def deciding? (filter : Filter) (source : String) : Option Directive :=
  (filter.directives.filter (·.covers source)).foldl (fun best d =>
    match best with
    | none => some d
    | some known => if known.weight ≤ d.weight then some d else some known) none

def keeps (filter : Filter) (event : Event) : Bool :=
  match (filter.deciding? event.source).bind (·.least) with
  | some least => least.rank ≤ event.level.rank
  | none => false

/-- The pieces of a text between commas that are not empty. -/
def parts (text : String) : List String :=
  ((Text.pieces ',' text.toList).filter (!·.isEmpty)).map String.ofList

/-- The filter that a text of directives asks for, or else one that keeps everything from a level on. The texts
that are no directives are given too. -/
def ofText (default : Level) (text : String) : Filter × List String :=
  let directives := (parts text).filterMap Directive.read?
  let ignored := (parts text).filter fun part => (Directive.read? part).isNone
  (⟨if directives.isEmpty then [⟨none, some default⟩] else directives⟩, ignored)

end Filter

end NameCheck.Log
