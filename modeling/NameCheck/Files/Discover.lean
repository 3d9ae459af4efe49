import NameCheck.Files.Tree

/-!
The source files at or below a path.
-/
namespace NameCheck.Files

def sourceEndings : List String := ["js", "jsx", "ts", "tsx", "mjs", "cjs", "mts", "cts"]

def isSourceName (name : String) : Bool :=
  match Path.ending? name with
  | some ending => sourceEndings.contains ending
  | none => false

/-- Whether an entry of a directory is passed over: hidden ones and installed packages. -/
def isSkipped (name : String) : Bool := name.toList.head? == some '.' || name == "node_modules"

mutual

/-- The source files of an entry, by their names from where the search started. -/
def sourcesOfEntry (names : List String) : Entry → List (List String × Content)
  | .file content => if isSourceName (names.getLastD "") then [(names, content)] else []
  | .directory entries => sourcesOfEntries names entries

/-- The source files among some entries of a directory. -/
def sourcesOfEntries (names : List String) : List (String × Entry) → List (List String × Content)
  | [] => []
  | entry :: rest => sourcesOfNamed names entry ++ sourcesOfEntries names rest

/-- The source files of a named entry of a directory, none if it is passed over. -/
def sourcesOfNamed (names : List String) : String × Entry → List (List String × Content)
  | (name, entry) => if isSkipped name then [] else sourcesOfEntry (names ++ [name]) entry

end

/-- Whether one list of names comes before another or is the same: by the first names that differ, a shorter
list before its continuations. -/
def namesLe : List String → List String → Bool
  | [], _ => true
  | _ :: _, [] => false
  | a :: as, b :: bs => if a = b then namesLe as bs else decide (a < b)

/-- A source file: the path it was found under and what it holds. -/
structure SourceFile where
  path : Path
  content : Content
deriving DecidableEq, Repr, Inhabited

/-- The last name of a path, if the path ends with one. -/
def lastName (path : Path) : String :=
  match path.names.getLast? with
  | some name => if name = ".." then "" else name
  | none => ""

/-- The source files at or below a path in order, none if the path leads nowhere. A path that was asked for is
never passed over itself. -/
def discover? (world : World) (path : Path) : Option (List SourceFile) :=
  (world.find? path).map fun
    | .file content => if isSourceName (lastName path) then [⟨path, content⟩] else []
    | .directory entries =>
      ((sourcesOfEntries [] entries).mergeSort fun a b => namesLe a.1 b.1).map fun (names, content) =>
        ⟨names.foldl Path.join path, content⟩

end NameCheck.Files
