import Mathlib.Data.List.DropRight
import Mathlib.Data.String.Basic
import NameCheck.Files.Discover
import NameCheck.Proofs.Trees

/-!
Which files are found. The files at or below a path are those that names lead to from it, and a walk that passes over an
entry passes over just the files below it (`mem_sourcesOfEntry`). They are sorted by names from where the walk starts,
which sorts their paths by components (`components_below`).
-/
namespace NameCheck.Files

open NameCheck.Files.Path (leads parts pieces)

/-! ## Endings and names -/

theorem ending?_eq_some {name ending : String} :
    Path.ending? name = some ending ↔ ∃ stem, stem ≠ "" ∧ '.' ∉ ending.toList ∧ name = stem ++ "." ++ ending := by
  rw [Path.ending?, List.span_eq_takeWhile_dropWhile]
  dsimp only
  constructor
  · intro found
    split at found
    · next point c stem is =>
      have stops := List.head?_dropWhile_not (· ≠ '.') name.toList.reverse
      rw [is] at stops
      obtain rfl : point = '.' := by simpa using stops
      have parts := List.takeWhile_append_dropWhile (p := (· ≠ '.')) (l := name.toList.reverse)
      rw [is] at parts
      obtain rfl := Option.some.inj found
      refine ⟨String.ofList (c :: stem).reverse, by simp, ?_, ?_⟩
      · intro member
        rw [String.toList_ofList, List.mem_reverse] at member
        simpa using List.mem_takeWhile_imp member
      · rw [← String.toList_inj, ← List.reverse_inj]
        refine parts.symm.trans ?_
        simp
    · cases found
  · rintro ⟨stem, filled, plain, rfl⟩
    obtain ⟨c, rest, is⟩ : ∃ c rest, stem.toList.reverse = c :: rest :=
      List.exists_cons_of_ne_nil (by simpa using filled)
    have reversed : (stem ++ "." ++ ending).toList.reverse = ending.toList.reverse ++ '.' :: c :: rest := by
      simp [is]
    have all : ∀ c ∈ ending.toList.reverse, decide (c ≠ '.') = true := by
      intro c member
      rw [decide_eq_true_iff]
      rintro rfl
      exact plain (List.mem_reverse.mp member)
    rw [reversed, List.takeWhile_append_of_pos all, List.dropWhile_append_of_pos all]
    simp

/-- A name that ends with a source ending: some text, a point and the ending. -/
def HasSourceEnding (name : String) : Prop :=
  ∃ stem, stem ≠ "" ∧ ∃ ending ∈ ["js", "jsx", "ts", "tsx", "mjs", "cjs", "mts", "cts"], name = stem ++ "." ++ ending

theorem isSourceName_iff (name : String) : isSourceName name = true ↔ HasSourceEnding name := by
  have plain : ∀ ending ∈ sourceEndings, '.' ∉ ending.toList := by decide
  rw [isSourceName]
  constructor
  · intro source
    split at source
    · next ending is =>
      obtain ⟨stem, filled, -, same⟩ := ending?_eq_some.mp is
      exact ⟨stem, filled, ending, List.contains_iff_mem.mp source, same⟩
    · cases source
  · rintro ⟨stem, filled, ending, member, same⟩
    rw [ending?_eq_some.mpr ⟨stem, filled, plain ending member, same⟩]
    exact List.contains_iff_mem.mpr member

/-- A name that is passed over below the path of a search: one that starts with a point, and that of installed
packages. -/
def PassedOver (name : String) : Prop := (∃ rest, name = "." ++ rest) ∨ name = "node_modules"

theorem isSkipped_iff (name : String) : isSkipped name = true ↔ PassedOver name := by
  rw [isSkipped, Bool.or_eq_true, beq_iff_eq, beq_iff_eq, PassedOver]
  refine or_congr_left ⟨fun starts => ?_, ?_⟩
  · obtain ⟨rest, is⟩ := List.head?_eq_some_iff.mp starts
    refine ⟨String.ofList rest, ?_⟩
    rw [← String.toList_inj, is]
    simp
  · rintro ⟨rest, rfl⟩
    rw [String.toList_append]
    rfl

/-! ## Walks -/

theorem sourcesOfEntries_eq (names : List String) (entries : Directory) :
    sourcesOfEntries names entries = entries.flatMap (sourcesOfNamed names) := by
  induction entries with
  | nil => rfl
  | cons entry rest ih => rw [sourcesOfEntries, ih, List.flatMap_cons]

theorem mem_sourcesOfNamed {names : List String} {named : String × Entry} {found : List String × Content} :
    found ∈ sourcesOfNamed names named ↔
      isSkipped named.1 = false ∧ found ∈ sourcesOfEntry (names ++ [named.1]) named.2 := by
  obtain ⟨name, entry⟩ := named
  rw [sourcesOfNamed]
  cases isSkipped name <;> simp

/-- A walk finds the files with a source ending to which names lead that are not passed over. -/
theorem mem_sourcesOfEntry {entry : Entry} (proper : entry.Proper) (names found : List String) (content : Content) :
    (found, content) ∈ sourcesOfEntry names entry ↔ ∃ rest, found = names ++ rest ∧
      entry.at? rest = some (.file content) ∧ (∀ name ∈ rest, isSkipped name = false) ∧
        isSourceName (found.getLastD "") = true := by
  induction proper generalizing names with
  | file held =>
    rw [sourcesOfEntry]
    constructor
    · intro member
      split at member
      · next source =>
        obtain ⟨rfl, rfl⟩ := Prod.mk.inj (List.mem_singleton.mp member)
        exact ⟨[], (List.append_nil _).symm, rfl, by simp, source⟩
      · cases member
    · rintro ⟨rest, rfl, leads, -, source⟩
      cases rest with
      | nil =>
        obtain rfl := Entry.file.inj (Option.some.inj leads)
        rw [List.append_nil] at source ⊢
        rw [if_pos source]
        exact List.mem_singleton_self _
      | cons name rest => cases leads
  | @directory entries distinct named inside ih =>
    rw [sourcesOfEntry, sourcesOfEntries_eq, List.mem_flatMap]
    constructor
    · rintro ⟨⟨name, inner⟩, member, within⟩
      obtain ⟨kept, within⟩ := mem_sourcesOfNamed.mp within
      obtain ⟨rest, rfl, leads, others, source⟩ := (ih _ member _).mp within
      refine ⟨name :: rest, by simp, ?_, List.forall_mem_cons.mpr ⟨kept, others⟩, source⟩
      rw [Entry.at?, Entry.child?, lookup_of_mem distinct member, Option.bind_some]
      exact leads
    · rintro ⟨rest, rfl, leads, kept, source⟩
      cases rest with
      | nil => cases leads
      | cons name rest =>
        obtain ⟨inner, first, later⟩ := Option.bind_eq_some_iff.mp leads
        obtain ⟨keptFirst, others⟩ := List.forall_mem_cons.mp kept
        have member := mem_of_lookup first
        refine ⟨(name, inner), member, mem_sourcesOfNamed.mpr ⟨keptFirst, ?_⟩⟩
        exact (ih _ member _).mpr ⟨rest, by simp, later, others, source⟩

/-- A walk finds no file twice. -/
theorem pairwise_sourcesOfEntry {entry : Entry} (proper : entry.Proper) (names : List String) :
    (sourcesOfEntry names entry).Pairwise fun first second => first.1 ≠ second.1 := by
  induction proper generalizing names with
  | file held =>
    rw [sourcesOfEntry]
    split
    · exact List.pairwise_singleton _ _
    · exact List.Pairwise.nil
  | @directory entries distinct named inside ih =>
    rw [sourcesOfEntry, sourcesOfEntries_eq, List.pairwise_flatMap]
    refine ⟨fun ⟨name, inner⟩ member => ?_, ?_⟩
    · rw [sourcesOfNamed]
      split
      · exact List.Pairwise.nil
      · exact ih _ member _
    · refine (List.pairwise_map.mp distinct).imp_of_mem ?_
      rintro ⟨name, inner⟩ ⟨other, outer⟩ member later differ ⟨found, content⟩ within ⟨found', content'⟩ without rfl
      obtain ⟨-, within⟩ := mem_sourcesOfNamed.mp within
      obtain ⟨-, without⟩ := mem_sourcesOfNamed.mp without
      obtain ⟨rest, is, -⟩ := (mem_sourcesOfEntry (inside _ member) _ _ _).mp within
      obtain ⟨rest', is', -⟩ := (mem_sourcesOfEntry (inside _ later) _ _ _).mp without
      have same := is.symm.trans is'
      simp only [List.append_assoc, List.append_cancel_left_eq, List.singleton_append] at same
      exact differ (List.cons.inj same).1

/-! ## The order of paths -/

/-- A component of a path: the root, a point at the start, two points, or a name. -/
inductive Component where
  | root
  | here
  | above
  | name (name : String)
deriving DecidableEq, Repr

/-- The rank of a kind of component in the order of components. -/
def Component.rank : Component → Nat
  | .root => 0
  | .here => 1
  | .above => 2
  | .name _ => 3

/-- The order of components: by kind, and names by their characters. -/
def Component.Before : Component → Component → Prop
  | .name first, .name second => first < second
  | first, second => first.rank < second.rank

/-- The components of a path. -/
def Path.components (path : Path) : List Component :=
  (if path.isAbsolute then [.root] else if (pieces path.toList).head? = some ['.'] then [.here] else []) ++
    path.names.map fun name => if name = ".." then .above else .name name

/-- One path comes before another: at the first components that differ, or as its start. -/
def Path.Before (first second : Path) : Prop := List.Lex Component.Before first.components second.components

theorem head?_join {path : Path} (filled : path ≠ "") (name : String) :
    (pieces (path.join name).toList).head? = (pieces path.toList).head? := by
  have nonempty : pieces path.toList ≠ [] := by
    rw [Path.pieces_eq_splitOn]
    exact List.splitOn_ne_nil '/' _
  rcases Path.pieces_join_cases filled name with ⟨ps, is, are⟩ | are
  · cases ps with
    | nil =>
      have empty := Path.glue_pieces path.toList
      rw [is] at empty
      exact absurd (String.toList_eq_nil_iff.mp empty.symm) filled
    | cons piece ps => rw [is, are, List.cons_append, List.cons_append, List.head?_cons, List.head?_cons]
  · obtain ⟨piece, ps, is⟩ := List.exists_cons_of_ne_nil nonempty
    rw [are, is, List.cons_append, List.head?_cons, List.head?_cons]

theorem names_join (path : Path) {name : String} (isName : IsName name) :
    (path.join name).names = path.names ++ [name] := by
  rw [Path.names_eq, Path.parts_join, isName.parts_eq, List.map_append, ← Path.names_eq, List.map_singleton,
    String.ofList_toList]

theorem components_join {path : Path} (filled : path ≠ "") {name : String} (isName : IsName name) :
    (path.join name).components = path.components ++ [.name name] := by
  rw [Path.components, Path.components, Path.isAbsolute_join fun empty => absurd empty filled, head?_join filled,
    names_join path isName, List.map_append, List.map_singleton, if_neg isName.points, List.append_assoc]

section

variable {path : Path} {names : List String} (areNames : ∀ name ∈ names, IsName name)
include areNames

theorem names_below : (names.foldl Path.join path).names = path.names ++ names := by
  induction names generalizing path with
  | nil => exact (List.append_nil _).symm
  | cons name rest ih =>
    obtain ⟨isName, others⟩ := List.forall_mem_cons.mp areNames
    rw [List.foldl_cons, ih others, names_join path isName, List.append_assoc, List.singleton_append]

/-- Names behind a path are components behind its components. -/
theorem components_below (filled : path ≠ "") :
    (names.foldl Path.join path).components = path.components ++ names.map .name := by
  induction names generalizing path with
  | nil => exact (List.append_nil _).symm
  | cons name rest ih =>
    obtain ⟨isName, others⟩ := List.forall_mem_cons.mp areNames
    rw [List.foldl_cons, ih others (Path.join_ne_empty path isName.filled), components_join filled isName,
      List.append_assoc, List.map_cons, List.singleton_append]

end

theorem namesLe_iff (first second : List String) : namesLe first second = true ↔ first ≤ second := by
  rw [le_iff_lt_or_eq]
  fun_induction namesLe first second with
  | case1 second =>
    cases second with
    | nil => exact iff_of_true rfl (.inr rfl)
    | cons name rest => exact iff_of_true rfl (.inl .nil)
  | case2 name rest =>
    refine iff_of_false Bool.false_ne_true ?_
    rintro (less | same)
    · cases less
    · cases same
  | case3 rest name others ih => rw [ih, List.cons_lt_cons_self, List.cons_inj_right]
  | case4 name rest other others differ =>
    rw [decide_eq_true_iff, List.cons_lt_cons_iff, List.cons.injEq]
    simp only [differ, false_and, or_false]

theorem lex_components {first second : List String} (earlier : first < second) :
    List.Lex Component.Before (first.map .name) (second.map .name) := by
  have lex : List.Lex (· < ·) first second := earlier
  induction lex with
  | nil => exact .nil
  | cons same ih => exact .cons (ih same)
  | rel less => exact .rel less

/-- Paths sort as the names behind a common path do. -/
theorem before_below {path : Path} (filled : path ≠ "") {first second : List String}
    (areNames : ∀ name ∈ first, IsName name) (areOthers : ∀ name ∈ second, IsName name) (earlier : first < second) :
    (first.foldl Path.join path).Before (second.foldl Path.join path) := by
  rw [Path.Before, components_below areNames filled, components_below areOthers filled]
  exact List.Lex.append_left _ (lex_components earlier) _

theorem Component.not_before_self (component : Component) : ¬ component.Before component := by
  cases component with
  | name name => exact String.lt_irrefl name
  | _ => exact Nat.lt_irrefl _

theorem Path.not_before_self (path : Path) : ¬ path.Before path := by
  have irrefl : ∀ components, ¬ List.Lex Component.Before components components := by
    intro components
    induction components with
    | nil => nofun
    | cons component rest ih =>
      intro lex
      cases lex with
      | cons later => exact ih later
      | rel less => exact component.not_before_self less
  exact irrefl path.components

/-! ## Searches -/

/-- A file that a search from a path is to find: a regular file at the path or below it, with no name below the path
that is passed over, whose last name has a source ending. -/
structure FoundBelow (world : World) (path : Path) (file : SourceFile) : Prop where
  below : ∃ names : List String, (∀ name ∈ names, IsName name ∧ ¬ PassedOver name) ∧
    file.path = names.foldl Path.join path
  regular : world.file? file.path = some file.content
  source : ∃ name, file.path.names.getLast? = some name ∧ HasSourceEnding name

theorem isSourceName_lastName (path : Path) :
    isSourceName (lastName path) = true ↔ ∃ name, path.names.getLast? = some name ∧ HasSourceEnding name := by
  have empty : isSourceName "" = false := by decide
  have points : isSourceName ".." = false := by decide
  rw [lastName]
  cases path.names.getLast? with
  | none => simp [empty]
  | some name =>
    dsimp only
    split
    · next is => simp [is, ← isSourceName_iff, empty, points]
    · simp [isSourceName_iff]

section

variable {world : World} {path : Path}

theorem mem_discover?_file {content : Content} (leads : world.find? path = some (.file content)) (file : SourceFile) :
    (file ∈ if isSourceName (lastName path) then [⟨path, content⟩] else []) ↔ FoundBelow world path file := by
  have filled := World.find?_ne_empty leads
  constructor
  · intro member
    split at member
    · next source =>
      obtain rfl := List.mem_singleton.mp member
      exact ⟨⟨[], by simp, rfl⟩, World.file?_eq_some.mpr leads, (isSourceName_lastName path).mp source⟩
    · cases member
  · rintro ⟨⟨names, kept, is⟩, regular, source⟩
    have regular := World.file?_eq_some.mp regular
    rw [is, World.find?_below filled fun name member => (kept name member).1, leads, Option.bind_some] at regular
    cases names with
    | nil =>
      obtain ⟨other, held⟩ := file
      obtain rfl : other = path := is
      obtain rfl := Entry.file.inj (Option.some.inj regular)
      rw [if_pos ((isSourceName_lastName other).mpr source)]
      exact List.mem_singleton_self _
    | cons name rest => cases regular

/-- The last name behind a path is the last name of the path that they make. -/
theorem isSourceName_below {names : List String} (areNames : ∀ name ∈ names, IsName name) (filled : names ≠ []) :
    isSourceName (names.getLastD "") = true ↔
      ∃ name, (names.foldl Path.join path).names.getLast? = some name ∧ HasSourceEnding name := by
  obtain ⟨first, last, rfl⟩ : ∃ first last, names = first ++ [last] :=
    ⟨_, _, (List.dropLast_concat_getLast filled).symm⟩
  rw [names_below areNames, ← List.append_assoc, List.getLast?_concat, List.getLastD_concat, isSourceName_iff]
  simp

theorem mem_discover?_directory (proper : (Entry.directory world.root).Proper) {entries : Directory}
    (leads : world.find? path = some (.directory entries)) (names : List String) (content : Content) :
    (names, content) ∈ sourcesOfEntries [] entries ↔ (∀ name ∈ names, IsName name ∧ ¬ PassedOver name) ∧
      FoundBelow world path ⟨names.foldl Path.join path, content⟩ := by
  have filled := World.find?_ne_empty leads
  have properHere := World.find?_proper proper leads
  have walk : sourcesOfEntries [] entries = sourcesOfEntry [] (.directory entries) := rfl
  have deeper : Entry.at? (.directory entries) names = some (.file content) → names ≠ [] := by
    rintro found rfl
    cases found
  rw [walk, mem_sourcesOfEntry properHere]
  constructor
  · rintro ⟨rest, rfl, found, kept, source⟩
    obtain ⟨areNames, -⟩ := properHere.descendant found
    have below : ∀ name ∈ names, IsName name ∧ ¬ PassedOver name := by
      intro name member
      rw [← isSkipped_iff, Bool.not_eq_true]
      exact ⟨areNames name member, kept name member⟩
    refine ⟨below, ⟨names, below, rfl⟩, ?_, (isSourceName_below areNames (deeper found)).mp source⟩
    rw [World.file?_eq_some, World.find?_below filled areNames, leads, Option.bind_some]
    exact found
  · rintro ⟨below, -, regular, source⟩
    have areNames : ∀ name ∈ names, IsName name := fun name member => (below name member).1
    rw [World.file?_eq_some, World.find?_below filled areNames, leads, Option.bind_some] at regular
    refine ⟨names, rfl, regular, fun name member => ?_, (isSourceName_below areNames (deeper regular)).mpr source⟩
    rw [← Bool.not_eq_true, isSkipped_iff]
    exact (below name member).2

/-- A search finds what it is to find. -/
theorem mem_discover? (proper : (Entry.directory world.root).Proper) {files : List SourceFile}
    (found : discover? world path = some files) (file : SourceFile) : file ∈ files ↔ FoundBelow world path file := by
  obtain ⟨entry, leads, rfl⟩ := Option.map_eq_some_iff.mp found
  cases entry with
  | file content => exact mem_discover?_file leads file
  | directory entries =>
    dsimp only
    rw [List.mem_map]
    constructor
    · rintro ⟨⟨names, content⟩, member, rfl⟩
      exact ((mem_discover?_directory proper leads names content).mp (List.mem_mergeSort.mp member)).2
    · intro isFound
      obtain ⟨names, below, is⟩ := isFound.below
      obtain ⟨other, content⟩ := file
      obtain rfl : other = names.foldl Path.join path := is
      have member := (mem_discover?_directory proper leads names content).mpr ⟨below, isFound⟩
      exact ⟨(names, content), List.mem_mergeSort.mpr member, rfl⟩

/-- The files of a directory, once sorted by their names, are in strict order. -/
theorem pairwise_mergeSort_sources {entries : Directory} (proper : (Entry.directory entries).Proper) :
    ((sourcesOfEntries [] entries).mergeSort fun first second => namesLe first.1 second.1).Pairwise
      fun first second => first.1 < second.1 := by
  have trans : ∀ first second third : List String × Content, namesLe first.1 second.1 = true →
      namesLe second.1 third.1 = true → namesLe first.1 third.1 = true := by
    intro first second third
    rw [namesLe_iff, namesLe_iff, namesLe_iff]
    exact le_trans
  have total : ∀ first second : List String × Content,
      (namesLe first.1 second.1 || namesLe second.1 first.1) = true := by
    intro first second
    rw [Bool.or_eq_true, namesLe_iff, namesLe_iff]
    exact le_total _ _
  have sorted := List.pairwise_mergeSort trans total (sourcesOfEntries [] entries)
  have once : (sourcesOfEntries [] entries).Pairwise fun first second => first.1 ≠ second.1 :=
    pairwise_sourcesOfEntry proper []
  have differ := (List.mergeSort_perm (sourcesOfEntries [] entries)
    fun first second => namesLe first.1 second.1).symm.pairwise once Ne.symm
  refine (sorted.and differ).imp fun {first second} both => ?_
  exact lt_of_le_of_ne ((namesLe_iff _ _).mp both.1) both.2

/-- A search finds files in the order of their paths. -/
theorem pairwise_discover? (proper : (Entry.directory world.root).Proper) {files : List SourceFile}
    (found : discover? world path = some files) : files.Pairwise fun first second => first.path.Before second.path := by
  obtain ⟨entry, leads, rfl⟩ := Option.map_eq_some_iff.mp found
  cases entry with
  | file content =>
    dsimp only
    split
    · exact List.pairwise_singleton _ _
    · exact List.Pairwise.nil
  | directory entries =>
    have areNames : ∀ source ∈ sourcesOfEntries [] entries, ∀ name ∈ source.1, IsName name := by
      intro source member name inside
      exact (((mem_discover?_directory proper leads _ _).mp member).1 name inside).1
    refine List.pairwise_map.mpr ((pairwise_mergeSort_sources (World.find?_proper proper leads)).imp_of_mem ?_)
    intro first second member later earlier
    exact before_below (World.find?_ne_empty leads) (areNames first (List.mem_mergeSort.mp member))
      (areNames second (List.mem_mergeSort.mp later)) earlier

end

/-- A search fails just if its path leads nowhere. Otherwise it lists, once each and in the order of their paths, the
regular files at or below the path that have a source ending and no name below the path that is passed over. -/
theorem searches_list_sources (world : World) (proper : (Entry.directory world.root).Proper) (path : Path) :
    (discover? world path = none ↔ world.contains path = false) ∧
      ∀ files, discover? world path = some files →
        (∀ file, file ∈ files ↔ FoundBelow world path file) ∧
          files.Pairwise (fun first second => first.path.Before second.path) ∧ (files.map (·.path)).Nodup := by
  constructor
  · rw [discover?, Option.map_eq_none_iff, World.contains, Option.isSome_eq_false_iff, Option.isNone_iff_eq_none]
  · intro files found
    have sorted := pairwise_discover? proper found
    refine ⟨mem_discover? proper found, sorted, List.pairwise_map.mpr (sorted.imp ?_)⟩
    intro first second earlier same
    rw [same] at earlier
    exact second.path.not_before_self earlier

/-- Packages with a hidden file, packages of their own, a directory with a source ending and a file that is nothing but
one. -/
def packages : Directory := [
  ("a-b.js", .file (.text "")),
  (".hidden.ts", .file (.text "")),
  ("a", .directory [("z.cts", .file (.unreadable "denied")), ("notes.md", .file (.text ""))]),
  ("node_modules", .directory [("inner.js", .file (.text ""))]),
  ("lib.js", .directory [("in.d.mts", .file (.text "")), (".js", .file (.text ""))])]

def installed : World where
  root := [("node_modules", .directory packages)]

theorem installed_proper : (Entry.directory installed.root).Proper := by
  simp only [installed, packages, Entry.Proper.directory_iff, List.forall_mem_cons, List.not_mem_nil,
    Entry.Proper.file, false_implies, implies_true, and_true, true_and]
  decide

theorem discover?_installed :
    discover? installed "node_modules" = some [⟨"node_modules/a/z.cts", .unreadable "denied"⟩,
      ⟨"node_modules/a-b.js", .text ""⟩, ⟨"node_modules/lib.js/in.d.mts", .text ""⟩] := by
  have leads : installed.find? "node_modules" = some (.directory packages) := rfl
  have sources : sourcesOfEntries [] packages = [(["a-b.js"], .text ""), (["a", "z.cts"], .unreadable "denied"),
      (["lib.js", "in.d.mts"], .text "")] := by decide +kernel
  have sorted : ((sourcesOfEntries [] packages).mergeSort fun first second => namesLe first.1 second.1) =
      [(["a", "z.cts"], .unreadable "denied"), (["a-b.js"], .text ""), (["lib.js", "in.d.mts"], .text "")] := by
    have later : namesLe ["a-b.js"] ["a", "z.cts"] = false := by decide
    have earlier : namesLe ["a-b.js"] ["lib.js", "in.d.mts"] = true := by decide
    have first : namesLe ["a", "z.cts"] ["lib.js", "in.d.mts"] = true := by decide
    simp [sources, List.mergeSort, List.MergeSort.Internal.splitInTwo, later, earlier, first]
  rw [discover?, leads, Option.map_some]
  dsimp only
  rw [sorted]
  decide +kernel

theorem installed_listed :
    (Entry.directory installed.root).Proper ∧ ∃ files, discover? installed "node_modules" = some files ∧
      files.map (·.path) = ["node_modules/a/z.cts", "node_modules/a-b.js", "node_modules/lib.js/in.d.mts"] ∧
      (∀ file, file ∈ files ↔ FoundBelow installed "node_modules" file) ∧
      files.Pairwise (fun first second => first.path.Before second.path) ∧ (files.map (·.path)).Nodup := by
  obtain ⟨-, listed⟩ := searches_list_sources installed installed_proper "node_modules"
  exact ⟨installed_proper, _, discover?_installed, rfl, listed _ discover?_installed⟩

end NameCheck.Files
