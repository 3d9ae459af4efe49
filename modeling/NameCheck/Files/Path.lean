import NameCheck.Text.Pieces

/-!
Paths as texts: their parts, what stands above them, and the endings of file names.
-/
namespace NameCheck.Files

/-- A path as it was written. -/
abbrev Path := String

namespace Path

/-- The pieces of a path between slashes. -/
def pieces (cs : List Char) : List (List Char) := Text.pieces '/' cs

/-- Pieces with slashes between them. -/
def glue (pieces : List (List Char)) : List Char := List.intercalate ['/'] pieces

/-- Whether a path starts at the root. -/
def isAbsolute (path : Path) : Bool := path.toList.head? == some '/'

/-- The names in a path, in order; a point and nothing at all are no names. -/
def names (path : Path) : List String :=
  ((pieces path.toList).filter fun p => p ≠ [] ∧ p ≠ ['.']).map String.ofList

/-- A path with a name behind it. -/
def join (path : Path) (name : String) : Path :=
  if path.isEmpty || path.toList.getLast? == some '/' then path ++ name else path ++ "/" ++ name

/-- What a path starts with before its pieces: a slash, a point that stands for the current directory, or
nothing. -/
def start : List Char → List Char × List Char
  | '/' :: rest => (['/'], rest)
  | ['.'] => (['.'], [])
  | '.' :: '/' :: rest => (['.'], '/' :: rest)
  | cs => ([], cs)

/-- Drops pieces at the end that are empty or a point. -/
def trimPieces (ps : List (List Char)) : List (List Char) :=
  (ps.reverse.dropWhile fun p => p = [] ∨ p = ['.']).reverse

/-- The path above a path, by its text alone: two points are a piece like any other. -/
def parent? (path : Path) : Option Path :=
  let (before, body) := start path.toList
  match trimPieces (pieces body) with
  | [] => if before = ['.'] then some "" else none
  | ps => some (String.ofList (before ++ glue (trimPieces ps.dropLast)))

/-- A path and the paths above it, at most `bound` of them. -/
def ancestorsBounded : (bound : Nat) → Path → List Path
  | 0, _ => []
  | bound + 1, path => path :: (path.parent?.map (ancestorsBounded bound)).getD []

/-- A path and all paths above it, the nearest first. Every step up is a shorter text. -/
def ancestors (path : Path) : List Path := ancestorsBounded (path.length + 1) path

/-- The ending of a file name, after its last point; a point that starts the name starts no ending. -/
def ending? (name : String) : Option String :=
  let (after, before) := name.toList.reverse.span (· ≠ '.')
  match before with
  | _ :: _ :: _ => some (String.ofList after.reverse)
  | _ => none

end Path

end NameCheck.Files
