import NameCheck.Files.Path

/-!
Trees of files and directories, and what a path leads to in them.
-/
namespace NameCheck.Files

/-- What a file holds: text, or something that cannot be read as text for a stated reason. -/
inductive Content where
  | text (text : String)
  | unreadable (reason : String)
deriving DecidableEq, Repr, Inhabited

/-- A file or a directory with its entries by name. -/
inductive Entry where
  | file (content : Content)
  | directory (entries : List (String × Entry))
deriving Inhabited

abbrev Directory := List (String × Entry)

/-- What the names of a path lead to from a directory, below the directories around it. Two points lead to the
directory around; at the outermost they lead nowhere else. Only a directory has something behind it. -/
def resolve : (current : Directory) → (around : List Directory) → List (List Char) → Option Entry
  | current, _, [] => some (.directory current)
  | current, around, piece :: rest =>
    if piece = [] ∨ piece = ['.'] then resolve current around rest
    else if piece = ['.', '.'] then
      match around with
      | [] => resolve current [] rest
      | outer :: further => resolve outer further rest
    else match current.lookup (String.ofList piece) with
      | some (.directory entries) => resolve entries (current :: around) rest
      | some (.file content) => if rest.isEmpty then some (.file content) else none
      | none => none

/-- The entries of a directory with one of them changed, added or removed. -/
def Directory.update (name : String) (change : Option Entry → Option Entry) : Directory → Directory
  | [] => ((change none).map fun entry => (name, entry)).toList
  | (other, entry) :: rest =>
    if other = name then ((change (some entry)).map fun entry => (name, entry)).toList ++ rest
    else (other, entry) :: Directory.update name change rest

/-- Changes what stands under a path of names; directories on the way are made. -/
def Directory.updateAt (change : Option Entry → Option Entry) : List String → Directory → Directory
  | [], directory => directory
  | [name], directory => directory.update name change
  | name :: rest, directory => directory.update name fun
    | some (.directory entries) => some (.directory (Directory.updateAt change rest entries))
    | some (.file content) => some (.file content)
    | none => some (.directory (Directory.updateAt change rest []))

/-- A tree of files seen from one of its directories, given by its names from the root. -/
structure World where
  root : Directory := []
  current : List String := []
deriving Inhabited

namespace World

def currentPath (world : World) : Path := "/" ++ String.intercalate "/" world.current

/-- What a path leads to. The empty path leads nowhere. -/
def find? (world : World) (path : Path) : Option Entry :=
  let pieces := Path.pieces path.toList
  if path.isEmpty then none
  else if path.isAbsolute then resolve world.root [] pieces
  else resolve world.root [] (world.current.map String.toList ++ pieces)

def contains (world : World) (path : Path) : Bool := (world.find? path).isSome

/-- The content of the file that a path leads to. -/
def file? (world : World) (path : Path) : Option Content :=
  match world.find? path with
  | some (.file content) => some content
  | _ => none

/-- What reading a path as a file gives. -/
def read (world : World) (path : Path) : Content :=
  match world.find? path with
  | some (.file content) => content
  | some (.directory _) => .unreadable "Is a directory (os error 21)"
  | none => .unreadable "No such file or directory (os error 2)"

/-- The names that lead from the root to a path; two points take the name before them away. -/
def namesOf (world : World) (path : Path) : List String :=
  ((if path.isAbsolute then [] else world.current) ++ path.names).foldl
    (fun names name => if name = ".." then names.dropLast else names ++ [name]) []

/-- Puts an entry where a path leads; directories on the way are made. -/
def put (world : World) (path : Path) (entry : Entry) : World :=
  match world.namesOf path, entry with
  | [], .directory entries => { world with root := entries }
  | names, entry => { world with root := world.root.updateAt (fun _ => some entry) names }

/-- Puts a file under a path of names from the root. -/
def write (world : World) (names : List String) (content : Content) : World :=
  { world with root := world.root.updateAt (fun _ => some (.file content)) names }

/-- Makes a directory under a path of names from the root, unless something is there. -/
def makeDirectory (world : World) (names : List String) : World :=
  { world with root := world.root.updateAt (fun entry => entry.or (some (.directory []))) names }

def remove (world : World) (names : List String) : World :=
  { world with root := world.root.updateAt (fun _ => none) names }

end World

end NameCheck.Files
