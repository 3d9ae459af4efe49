import NameCheck.Files.Tree
import NameCheck.Proofs.Entries
import NameCheck.Proofs.PathParts

/-!
What lies below a path. In a tree of files each name stands once in its directory (`Entry.Proper`), so a path with names
behind it leads where the names lead from the entry that the path leads to (`find?_below`).
-/
namespace NameCheck

open Files (Directory resolve)

theorem resolve_cons (current : Directory) (around : List Directory) (piece : List Char) (rest : List (List Char)) :
    resolve current around (piece :: rest) =
      if piece = [] ∨ piece = ['.'] then resolve current around rest
      else if piece = ['.', '.'] then
        match around with
        | [] => resolve current [] rest
        | outer :: further => resolve outer further rest
      else match current.lookup (String.ofList piece) with
        | some (.directory entries) => resolve entries (current :: around) rest
        | some (.file content) => if rest.isEmpty then some (.file content) else none
        | none => none := rfl

namespace Files

open NameCheck.Files.Path (leads parts pieces)

/-! ## Names -/

/-- A name that an entry of a directory can have. -/
structure IsName (name : String) : Prop where
  filled : name ≠ ""
  point : name ≠ "."
  points : name ≠ ".."
  plain : '/' ∉ name.toList

instance (name : String) : Decidable (IsName name) :=
  decidable_of_iff (name ≠ "" ∧ name ≠ "." ∧ name ≠ ".." ∧ '/' ∉ name.toList)
    ⟨fun ⟨filled, point, points, plain⟩ => ⟨filled, point, points, plain⟩,
      fun is => ⟨is.filled, is.point, is.points, is.plain⟩⟩

namespace IsName

variable {name : String} (is : IsName name)
include is

theorem pieces_eq : pieces name.toList = [name.toList] := by
  rw [Path.pieces_eq_splitOn, List.splitOn_eq_singleton is.plain]

theorem still_ne : ¬ (name.toList = [] ∨ name.toList = ['.']) := by
  rintro (empty | point)
  · exact is.filled (String.toList_eq_nil_iff.mp empty)
  · exact is.point (String.toList_inj.mp point)

theorem leads_eq : leads name.toList = true := decide_eq_true (not_or.mp is.still_ne)

theorem parts_eq : parts name.toList = [name.toList] := by
  rw [parts, is.pieces_eq, List.filter_cons_of_pos is.leads_eq, List.filter_nil]

theorem points_ne : name.toList ≠ ['.', '.'] := fun same => is.points (String.toList_inj.mp same)

end IsName

/-! ## Trees -/

/-- A tree in which the entries of each directory have different names. -/
inductive Entry.Proper : Entry → Prop where
  | file (content : Content) : Proper (.file content)
  | directory {entries : Directory} (distinct : (entries.map (·.1)).Nodup) (named : ∀ entry ∈ entries, IsName entry.1)
    (inside : ∀ entry ∈ entries, Proper entry.2) : Proper (.directory entries)

/-- The entry with a name in a directory. -/
def Entry.child? (name : String) : Entry → Option Entry
  | .directory entries => entries.lookup name
  | .file _ => none

/-- The entry to which names lead. -/
def Entry.at? : Entry → List String → Option Entry
  | entry, [] => some entry
  | entry, name :: rest => (entry.child? name).bind (·.at? rest)

namespace Entry.Proper

theorem directory_iff {entries : Directory} : (Entry.directory entries).Proper ↔ (entries.map (·.1)).Nodup ∧
    (∀ entry ∈ entries, IsName entry.1) ∧ ∀ entry ∈ entries, entry.2.Proper := by
  constructor
  · intro proper
    cases proper with
    | directory distinct named inside => exact ⟨distinct, named, inside⟩
  · rintro ⟨distinct, named, inside⟩
    exact .directory distinct named inside

theorem child {entry inner : Entry} (proper : entry.Proper) {name : String} (found : entry.child? name = some inner) :
    IsName name ∧ inner.Proper := by
  cases proper with
  | file content => cases found
  | directory distinct named inside =>
    have member := mem_of_lookup found
    exact ⟨named _ member, inside _ member⟩

theorem descendant {entry inner : Entry} (proper : entry.Proper) {names : List String}
    (found : entry.at? names = some inner) : (∀ name ∈ names, IsName name) ∧ inner.Proper := by
  induction names generalizing entry with
  | nil =>
    obtain rfl := Option.some.inj found
    exact ⟨by simp, proper⟩
  | cons name rest ih =>
    obtain ⟨next, first, later⟩ := Option.bind_eq_some_iff.mp found
    obtain ⟨isName, properNext⟩ := proper.child first
    obtain ⟨areNames, properInner⟩ := ih properNext later
    exact ⟨List.forall_mem_cons.mpr ⟨isName, areNames⟩, properInner⟩

end Entry.Proper

/-- Whatever pieces lead to in a tree is a tree. -/
theorem resolve_proper {current : Directory} {around : List Directory} (proper : (Entry.directory current).Proper)
    (outer : ∀ directory ∈ around, (Entry.directory directory).Proper) {ps : List (List Char)} {entry : Entry}
    (found : resolve current around ps = some entry) : entry.Proper := by
  induction ps generalizing current around with
  | nil =>
    obtain rfl := Option.some.inj found
    exact proper
  | cons piece rest ih =>
    rw [resolve_cons] at found
    split at found
    · exact ih proper outer found
    · split at found
      · cases around with
        | nil => exact ih proper (by simp) found
        | cons first further =>
          obtain ⟨properFirst, properFurther⟩ := List.forall_mem_cons.mp outer
          exact ih properFirst properFurther found
      · split at found
        · next entries is =>
          obtain ⟨-, properEntries⟩ := proper.child is
          exact ih properEntries (List.forall_mem_cons.mpr ⟨proper, outer⟩) found
        · next content is =>
          obtain ⟨-, same⟩ := Option.ite_none_right_eq_some.mp found
          obtain rfl := Option.some.inj same
          exact .file content
        · cases found

/-! ## Longer paths -/

/-- One piece more leads on from what the pieces before it lead to, if that is a directory. -/
theorem resolve_concat {piece : List Char} {onward : Entry → Option Entry}
    (file : ∀ content, onward (.file content) = none)
    (directory : ∀ entries around, resolve entries around [piece] = onward (.directory entries)) (current : Directory)
    (around : List Directory) (ps : List (List Char)) :
    resolve current around (ps ++ [piece]) = (resolve current around ps).bind onward := by
  induction ps generalizing current around with
  | nil => exact directory current around
  | cons first rest ih =>
    have goes : (rest ++ [piece]).isEmpty = false := by simp
    rw [List.cons_append, resolve_cons, resolve_cons, goes]
    split
    · exact ih current around
    · split
      · cases around with
        | nil => exact ih current []
        | cons outer further => exact ih outer further
      · cases current.lookup (String.ofList first) with
        | none => rfl
        | some entry =>
          cases entry with
          | directory entries => exact ih entries (current :: around)
          | file content =>
            change none = (if rest.isEmpty = true then some (Entry.file content) else none).bind onward
            by_cases last : rest.isEmpty = true
            · rw [if_pos last, Option.bind_some, file]
            · rw [if_neg last, Option.bind_none]

theorem resolve_name {name : String} (isName : IsName name) (current : Directory) (around : List Directory)
    (ps : List (List Char)) :
    resolve current around (ps ++ [name.toList]) = (resolve current around ps).bind (Entry.child? name) := by
  refine resolve_concat (fun content => rfl) (fun entries around => ?_) current around ps
  rw [resolve_cons, if_neg isName.still_ne, if_neg isName.points_ne, String.ofList_toList, Entry.child?]
  cases entries.lookup name with
  | none => rfl
  | some entry => cases entry <;> rfl

/-- Pieces that lead nowhere else can be left out on the way to a last name. -/
theorem resolve_leads (current : Directory) (around : List Directory) (ps : List (List Char)) (last : List Char) :
    resolve current around (ps ++ [last]) = resolve current around (ps.filter leads ++ [last]) := by
  induction ps generalizing current around with
  | nil => rfl
  | cons piece rest ih =>
    by_cases still : piece = [] ∨ piece = ['.']
    · have skipped : leads piece = false := by rcases still with rfl | rfl <;> rfl
      rw [List.cons_append, resolve_cons, if_pos still, List.filter_cons_of_neg (by simp [skipped])]
      exact ih current around
    · have kept : leads piece = true := by simpa [leads] using still
      have goes : ∀ qs : List (List Char), (qs ++ [last]).isEmpty = false := fun qs => by simp
      rw [List.cons_append, List.filter_cons_of_pos kept, List.cons_append, resolve_cons, resolve_cons, if_neg still,
        if_neg still, goes, goes]
      split
      · cases around with
        | nil => exact ih current []
        | cons outer further => exact ih outer further
      · cases current.lookup (String.ofList piece) with
        | none => rfl
        | some entry =>
          cases entry with
          | file content => rfl
          | directory entries => exact ih entries (current :: around)

/-- A directory as what a path with a slash behind it leads to. -/
def Entry.directory? : Entry → Option Entry
  | .directory entries => some (.directory entries)
  | .file _ => none

theorem resolve_slash (current : Directory) (around : List Directory) (ps : List (List Char)) :
    resolve current around (ps ++ [[]]) = (resolve current around ps).bind Entry.directory? :=
  resolve_concat (fun _ => rfl) (fun _ _ => rfl) current around ps

namespace World

variable {world : World} {path : Path}

theorem find?_eq (filled : path ≠ "") :
    world.find? path = resolve world.root []
      ((if path.isAbsolute then [] else world.current.map String.toList) ++ pieces path.toList) := by
  have filled : ¬ path.isEmpty = true := by simpa using filled
  rw [find?, if_neg filled]
  split <;> rfl

theorem find?_ne_empty {entry : Entry} (found : world.find? path = some entry) : path ≠ "" := by
  rintro rfl
  cases found

/-- Whatever a path leads to in a tree is a tree. -/
theorem find?_proper (proper : (Entry.directory world.root).Proper) {entry : Entry}
    (found : world.find? path = some entry) : entry.Proper := by
  rw [find?_eq (find?_ne_empty found)] at found
  exact resolve_proper proper (by simp) found

theorem file?_eq_some {content : Content} :
    world.file? path = some content ↔ world.find? path = some (.file content) := by
  rw [World.file?]
  split
  · next held is => rw [is, Option.some.injEq, Option.some.injEq, Entry.file.injEq]
  · next other =>
    refine ⟨nofun, fun found => ?_⟩
    exact absurd found (other content)

/-- A path with a name behind it leads to the entry with that name in what the path leads to. -/
theorem find?_join (filled : path ≠ "") {name : String} (isName : IsName name) :
    world.find? (path.join name) = (world.find? path).bind (Entry.child? name) := by
  rw [find?_eq filled, find?_eq (Path.join_ne_empty path isName.filled),
    Path.isAbsolute_join fun empty => absurd empty filled]
  rcases Path.pieces_join_cases filled name with ⟨ps, is, are⟩ | are
  · have same : ∀ entry : Entry, (entry.directory?).bind (Entry.child? name) = entry.child? name := by
      intro entry
      cases entry <;> rfl
    rw [is, are, isName.pieces_eq, ← List.append_assoc, ← List.append_assoc, resolve_name isName, resolve_slash,
      Option.bind_assoc]
    simp only [same]
  · rw [are, isName.pieces_eq, ← List.append_assoc, resolve_name isName]

/-- A path with names behind it leads where the names lead from what the path leads to. -/
theorem find?_below (filled : path ≠ "") {names : List String} (areNames : ∀ name ∈ names, IsName name) :
    world.find? (names.foldl Path.join path) = (world.find? path).bind (·.at? names) := by
  induction names generalizing path with
  | nil => exact (Option.bind_fun_some _).symm
  | cons name rest ih =>
    obtain ⟨isName, others⟩ := List.forall_mem_cons.mp areNames
    rw [List.foldl_cons, ih (Path.join_ne_empty path isName.filled) others, find?_join filled isName, Option.bind_assoc]
    rfl

end World

end Files

end NameCheck
