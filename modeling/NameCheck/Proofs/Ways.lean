import NameCheck.Proofs.Trees

/-!
What is looked at on the way along a path. Directories on the way have to be directories, and what else they hold makes
no difference (`file?_join_iff`). So a tree can be changed at all other places without a change in what a path leads to
(`SameWay.file?_eq`).
-/
namespace NameCheck.Files

open NameCheck.Files.Path (leads parts pieces)

/-! ## Places -/

def Entry.content? : Entry → Option Content
  | .file content => some content
  | .directory _ => none

/-- The content of the file at a place, given by its names from the root. -/
def contentAt? (root : Directory) (place : List String) : Option Content :=
  ((Entry.directory root).at? place).bind Entry.content?

/-- A directory stands at a place. -/
def DirectoryAt (root : Directory) (place : List String) : Prop :=
  ∃ entries, (Entry.directory root).at? place = some (.directory entries)

instance (root : Directory) (place : List String) : Decidable (DirectoryAt root place) :=
  match found : (Entry.directory root).at? place with
  | some (.directory entries) => isTrue ⟨entries, found⟩
  | some (.file _) => isFalse fun ⟨_, other⟩ => nomatch found.symm.trans other
  | none => isFalse fun ⟨_, other⟩ => nomatch found.symm.trans other

theorem at?_append (entry : Entry) (first second : List String) :
    entry.at? (first ++ second) = (entry.at? first).bind (·.at? second) := by
  induction first generalizing entry with
  | nil => rfl
  | cons name first ih =>
    rw [List.cons_append, Entry.at?, Entry.at?, Option.bind_assoc]
    exact Option.bind_congr fun inner _ => ih inner

/-- What holds something is a directory. -/
theorem directoryAt_of_below {root : Directory} {place rest : List String} {name : String} {entry : Entry}
    (found : (Entry.directory root).at? (place ++ name :: rest) = some entry) : DirectoryAt root place := by
  rw [at?_append] at found
  obtain ⟨holder, at_, inside⟩ := Option.bind_eq_some_iff.mp found
  cases holder with
  | directory entries => exact ⟨entries, at_⟩
  | file content => cases inside

theorem DirectoryAt.of_starts {root : Directory} {first place : List String} (directory : DirectoryAt root place)
    (starts : first <+: place) : DirectoryAt root first := by
  obtain ⟨rest, rfl⟩ := starts
  cases rest with
  | nil => rwa [List.append_nil] at directory
  | cons name rest =>
    obtain ⟨entries, found⟩ := directory
    exact directoryAt_of_below found

/-- Trees with the same entry at a place are the same below it. -/
theorem at?_below {root other : Directory} {place : List String}
    (same : (Entry.directory other).at? place = (Entry.directory root).at? place) (names : List String) :
    (Entry.directory other).at? (place ++ names) = (Entry.directory root).at? (place ++ names) := by
  rw [at?_append, at?_append, same]

/-- The names of the place that pieces lead to by their text alone, the last one first. Two points lead back. -/
def trailOf : (trail : List String) → List (List Char) → List String
  | trail, [] => trail
  | trail, piece :: rest =>
    if piece = [] ∨ piece = ['.'] then trailOf trail rest
    else if piece = ['.', '.'] then trailOf trail.tail rest
    else trailOf (String.ofList piece :: trail) rest

/-- The places that pieces lead through. -/
def passed : (trail : List String) → List (List Char) → List (List String)
  | _, [] => []
  | trail, piece :: rest =>
    if piece = [] ∨ piece = ['.'] then passed trail rest
    else if piece = ['.', '.'] then passed trail.tail rest
    else (String.ofList piece :: trail).reverse :: passed (String.ofList piece :: trail) rest

/-- The directory at the end of a trail and the directories around it. -/
inductive OnTrail (root : Directory) : (trail : List String) → Directory → List Directory → Prop where
  | root : OnTrail root [] root []
  | into {trail : List String} {outer entries : Directory} {further : List Directory} {name : String}
    (before : OnTrail root trail outer further) (found : outer.lookup name = some (.directory entries)) :
    OnTrail root (name :: trail) entries (outer :: further)

theorem OnTrail.at?_eq {root : Directory} {trail : List String} {current : Directory} {around : List Directory}
    (on : OnTrail root trail current around) (names : List String) :
    (Entry.directory root).at? (trail.reverse ++ names) = (Entry.directory current).at? names := by
  induction on generalizing names with
  | root => rfl
  | @into trail outer entries further name before found ih =>
    rw [List.reverse_cons, List.append_assoc, ih, List.singleton_append, Entry.at?, Entry.child?, found,
      Option.bind_some]

theorem OnTrail.at?_name {root : Directory} {trail : List String} {current : Directory} {around : List Directory}
    (on : OnTrail root trail current around) (name : String) :
    (Entry.directory root).at? (name :: trail).reverse = current.lookup name := by
  rw [List.reverse_cons, on.at?_eq, Entry.at?, Entry.child?]
  exact Option.bind_fun_some _

/-! ## Walks -/

/-- Pieces with a name behind them lead to a file just if they lead through directories and the file stands at their
place under the name. -/
theorem resolve_eq_file {name : String} (isName : IsName name) {root current : Directory} {trail : List String}
    {around : List Directory} (on : OnTrail root trail current around) (ps : List (List Char)) (content : Content) :
    resolve current around (ps ++ [name.toList]) = some (.file content) ↔
      (∀ place ∈ passed trail ps, DirectoryAt root place) ∧
        contentAt? root ((trailOf trail ps).reverse ++ [name]) = some content := by
  induction ps generalizing trail current around with
  | nil =>
    have last : contentAt? root (trail.reverse ++ [name]) = (current.lookup name).bind Entry.content? := by
      rw [contentAt?, ← List.reverse_cons, on.at?_name]
    have here : resolve current around [name.toList] = current.lookup name := by
      rw [← List.nil_append [name.toList], resolve_name isName]
      rfl
    rw [List.nil_append, here, trailOf, last]
    cases current.lookup name with
    | none => simp [passed]
    | some entry => cases entry <;> simp [passed, Entry.content?]
  | cons piece rest ih =>
    rw [List.cons_append, resolve_cons, passed, trailOf]
    split
    · exact ih on
    · split
      · cases on with
        | root => exact ih .root
        | into before found => exact ih before
      · have goes : (rest ++ [name.toList]).isEmpty = false := by simp
        rw [List.forall_mem_cons, DirectoryAt, on.at?_name, goes]
        cases found : current.lookup (String.ofList piece) with
        | none => simp
        | some entry =>
          cases entry with
          | file content => simp
          | directory entries =>
            rw [and_assoc]
            refine Iff.trans (ih (on.into found)) ?_
            simp

namespace World

/-- The pieces that lead from the root to the directory of a path. -/
def way (world : World) (path : Path) : List (List Char) :=
  (if path.isAbsolute then [] else world.current.map String.toList) ++ parts path.toList

/-- The place of a path, by its text alone. -/
def placeOf (world : World) (path : Path) : List String := (trailOf [] (world.way path)).reverse

/-- The places that a path leads through, its own included. -/
def passedTo (world : World) (path : Path) : List (List String) := passed [] (world.way path)

variable {world : World} {path : Path} {name : String}

theorem find?_join_way (isName : IsName name) :
    world.find? (path.join name) = resolve world.root [] (world.way path ++ [name.toList]) := by
  obtain ⟨ps, is, filtered⟩ := Path.pieces_join path name
  have relative : path = "" → Path.isAbsolute name = false := by
    intro _
    rw [Path.isAbsolute, beq_eq_false_iff_ne]
    intro slash
    exact isName.plain (List.mem_of_mem_head? slash)
  have again : (parts path.toList).filter leads = parts path.toList := by simp [parts]
  rw [find?_eq (Path.join_ne_empty path isName.filled), Path.isAbsolute_join relative, is, isName.pieces_eq,
    ← List.append_assoc, resolve_leads, way, resolve_leads _ _ (_ ++ parts path.toList), List.filter_append,
    List.filter_append, filtered, again]

/-- A path with a name behind it leads to a file just if it leads through directories and the file stands at its place
under the name. -/
theorem file?_join_iff (isName : IsName name) (content : Content) :
    world.file? (path.join name) = some content ↔ (∀ place ∈ world.passedTo path, DirectoryAt world.root place) ∧
      contentAt? world.root (world.placeOf path ++ [name]) = some content := by
  rw [file?_eq_some, find?_join_way isName]
  exact resolve_eq_file isName .root _ _

/-- Another tree is the same on the way to the file with a name in the directory of a path: directories stand at the
same of the places that the path leads through, and the file is the same or missing in both. -/
structure SameWay (world : World) (root : Directory) (path : Path) (name : String) : Prop where
  directories : ∀ place ∈ world.passedTo path, DirectoryAt root place ↔ DirectoryAt world.root place
  file : contentAt? root (world.placeOf path ++ [name]) = contentAt? world.root (world.placeOf path ++ [name])

instance (world : World) (root : Directory) (path : Path) (name : String) : Decidable (world.SameWay root path name) :=
  decidable_of_iff ((∀ place ∈ world.passedTo path, DirectoryAt root place ↔ DirectoryAt world.root place) ∧
      contentAt? root (world.placeOf path ++ [name]) = contentAt? world.root (world.placeOf path ++ [name]))
    ⟨fun ⟨directories, file⟩ => ⟨directories, file⟩, fun same => ⟨same.directories, same.file⟩⟩

theorem SameWay.file?_eq {root : Directory} (isName : IsName name) (same : world.SameWay root path name) :
    { world with root }.file? (path.join name) = world.file? (path.join name) := by
  refine Option.ext fun content => ?_
  calc { world with root }.file? (path.join name) = some content
    _ ↔ (∀ place ∈ world.passedTo path, DirectoryAt root place) ∧
          contentAt? root (world.placeOf path ++ [name]) = some content := file?_join_iff isName content
    _ ↔ (∀ place ∈ world.passedTo path, DirectoryAt world.root place) ∧
          contentAt? world.root (world.placeOf path ++ [name]) = some content := by
      rw [forall₂_congr same.directories, same.file]
    _ ↔ world.file? (path.join name) = some content := (file?_join_iff isName content).symm

end World

end NameCheck.Files
