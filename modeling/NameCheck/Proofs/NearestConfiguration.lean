import NameCheck.Proofs.Lookup

/-!
What the configuration of a path depends on. A search upwards takes one path after the other without a bound
(`upwards_ancestors`) and ends at the first configuration file, whatever comes of it (`find?_nearest`). So nothing counts
but the way to that file and to the nearer places where there is none.
-/
namespace NameCheck

open Files (Content Directory DirectoryAt Entry IsName Path World contentAt? passed trailOf)
open Files.Path (leads parts pieces)

/-! ## Paths above -/

/-- A path, the path above it and so on, until there is none above. -/
inductive Files.Path.Upwards : Path → List Path → Prop where
  | last {path : Path} (top : path.parent? = none) : Upwards path [path]
  | step {path above : Path} {further : List Path} (up : path.parent? = some above) (onward : Upwards above further) :
    Upwards path (path :: further)

theorem trimPieces_eq_nil (cs : List Char) : Path.trimPieces (pieces (Path.start cs).2) = [] ↔ parts cs = [] := by
  rw [← Path.parts_start cs, Path.trimPieces_eq, List.rdropWhile_eq_nil_iff, parts, List.filter_eq_nil_iff]
  simp

/-- The path above is a start of the path. -/
theorem parent?_starts {path above : Path} (up : path.parent? = some above) : above.toList <+: path.toList := by
  rw [Path.parent?_eq] at up
  cases trimmed : Path.trimPieces (pieces (Path.start path.toList).2) with
  | nil =>
    rw [trimmed] at up
    obtain ⟨-, is⟩ := Option.ite_none_right_eq_some.mp up
    rw [← Option.some.inj is]
    exact List.nil_prefix
  | cons piece rest =>
    rw [trimmed] at up
    have first : Path.trimPieces (piece :: rest).dropLast <+: pieces (Path.start path.toList).2 := by
      refine (Path.trimPieces_starts _).trans ((List.dropLast_prefix _).trans ?_)
      rw [← trimmed]
      exact Path.trimPieces_starts _
    rw [← Option.some.inj up, String.toList_ofList]
    exact Path.cut_starts first

theorem parent?_ne_self (path : Path) : path.parent? ≠ some path := by
  intro up
  by_cases empty : parts path.toList = []
  · -- There are no parts to lose. Only a point has a path above it then, and that is the empty one.
    rw [Path.parent?_eq, (trimPieces_eq_nil _).mpr empty] at up
    obtain ⟨point, is⟩ := Option.ite_none_right_eq_some.mp up
    have begins := Path.start_append path.toList
    rw [point, ← Option.some.inj is] at begins
    cases begins
  · rcases Path.parent?_cases path with ⟨-, none⟩ | ⟨above, is, fewer, -⟩
    · exact empty none
    · obtain rfl : path = above := Option.some.inj (up.symm.trans is)
      have length := congrArg List.length fewer
      have positive := List.length_pos_iff.mpr empty
      rw [List.length_dropLast] at length
      omega

theorem length_parent?_lt {path above : Path} (up : path.parent? = some above) : above.length < path.length := by
  have starts := parent?_starts up
  rw [← String.length_toList, ← String.length_toList]
  refine lt_of_le_of_ne starts.length_le fun same => parent?_ne_self path ?_
  rw [up, String.toList_inj.mp (starts.eq_of_length same)]

theorem upwards_ancestorsBounded (bound : Nat) (path : Path) (enough : path.length < bound) :
    path.Upwards (Path.ancestorsBounded bound path) := by
  induction bound generalizing path with
  | zero => omega
  | succ bound ih =>
    rw [Path.ancestorsBounded]
    cases up : path.parent? with
    | none => exact .last up
    | some above =>
      have shorter := length_parent?_lt up
      exact .step up (ih above (by omega))

/-- A search upwards leaves no path out. -/
theorem upwards_ancestors (path : Path) : path.Upwards path.ancestors :=
  upwards_ancestorsBounded (path.length + 1) path (by omega)

theorem names_parent? {path above : Path} (up : path.parent? = some above) :
    above.names <+: path.names ∧ above.isAbsolute = path.isAbsolute := by
  rcases Path.parent?_cases path with ⟨none, -⟩ | ⟨other, is, fewer, absolute⟩
  · rw [none] at up
    cases up
  · obtain rfl : other = above := Option.some.inj (is.symm.trans up)
    refine ⟨?_, absolute⟩
    rw [Path.names_eq, Path.names_eq, fewer]
    exact (List.dropLast_prefix _).map _

namespace Files.Path.Upwards

variable {path : Path} {paths : List Path}

theorem names_starts (up : path.Upwards paths) {above : Path} (member : above ∈ paths) :
    above.names <+: path.names ∧ above.isAbsolute = path.isAbsolute := by
  induction up with
  | last top =>
    obtain rfl := List.mem_singleton.mp member
    exact ⟨List.prefix_rfl, rfl⟩
  | step up onward ih =>
    rcases List.mem_cons.mp member with rfl | further
    · exact ⟨List.prefix_rfl, rfl⟩
    · obtain ⟨starts, absolute⟩ := names_parent? up
      obtain ⟨startsAbove, absoluteAbove⟩ := ih further
      exact ⟨startsAbove.trans starts, absoluteAbove.trans absolute⟩

theorem onward (up : path.Upwards paths) {before after : List Path} {above : Path}
    (is : paths = before ++ above :: after) : above.Upwards (above :: after) := by
  induction up generalizing before with
  | last top =>
    cases before with
    | nil =>
      obtain ⟨rfl, rfl⟩ := List.cons.inj is
      exact .last top
    | cons first before => simp at is
  | step up onward ih =>
    cases before with
    | nil =>
      obtain ⟨rfl, rfl⟩ := List.cons.inj is
      exact .step up onward
    | cons first before => exact ih (List.cons.inj is).2

end Files.Path.Upwards

/-! ## The nearest configuration file -/

namespace Config

variable {world : World} {start above : Path} {nearer : List Path} {content : Content}

/-- The first configuration file on the way upwards from a path, in the directory of the path `above`. There is none in
the directories of the nearer paths. -/
structure IsNearest (world : World) (start : Path) (nearer : List Path) (above : Path) (content : Content) : Prop where
  upwards : nearer ++ [above] <+: start.ancestors
  missing : ∀ path ∈ nearer, world.file? (path.join fileName) = none
  found : world.file? (above.join fileName) = some content

theorem find?_ancestors (world : World) (start : Path) :
    find? world start = start.ancestors.findSome? fun path =>
      (world.file? (path.join fileName)).map fun content => (path.join fileName, content) := rfl

theorem find?_nearest (nearest : IsNearest world start nearer above content) :
    find? world start = some (above.join fileName, content) := by
  obtain ⟨further, is⟩ := nearest.upwards
  have missing : nearer.findSome? (fun path =>
      (world.file? (path.join fileName)).map fun content => (path.join fileName, content)) = none := by
    rw [List.findSome?_eq_none_iff]
    intro path member
    rw [nearest.missing path member, Option.map_none]
  rw [find?_ancestors, ← is, List.append_assoc, List.findSome?_append, missing, Option.none_or, List.singleton_append,
    List.findSome?_cons, nearest.found, Option.map_some]

theorem find?_none (missing : ∀ path ∈ start.ancestors, world.file? (path.join fileName) = none) :
    find? world start = none := by
  rw [find?_ancestors, List.findSome?_eq_none_iff]
  intro path member
  rw [missing path member, Option.map_none]

/-- Either there is no configuration file upwards or there is a nearest one. -/
theorem nearest_or_none (world : World) (start : Path) :
    (∀ path ∈ start.ancestors, world.file? (path.join fileName) = none) ∨
      ∃ nearer above content, IsNearest world start nearer above content := by
  cases found : start.ancestors.findSome? fun path => world.file? (path.join fileName) with
  | none => exact .inl (List.findSome?_eq_none_iff.mp found)
  | some content =>
    obtain ⟨nearer, above, further, is, here, missing⟩ := List.findSome?_eq_some_iff.mp found
    refine .inr ⟨nearer, above, content, ⟨further, ?_⟩, missing, here⟩
    rw [is, List.append_assoc, List.singleton_append]

theorem result_of_loads (nearest : IsNearest world start nearer above content) {loaded : Loaded}
    (loads : load (above.join fileName) content = .ok loaded) : (choose world start).result = loaded := by
  simp only [choose, find?_nearest nearest, loads, Choice.result]

theorem result_of_fails (nearest : IsNearest world start nearer above content) {problem : Problem}
    (fails : load (above.join fileName) content = .error problem) :
    (choose world start).result = { settings := {}, warnings := [problem.message] } := by
  simp only [choose, find?_nearest nearest, fails, Choice.result]

/-! ## Changes elsewhere -/

/-- The nearest configuration file stays what it is if the tree is changed at places that are not on the way to it or to
the nearer places. -/
theorem IsNearest.of_sameWay (nearest : IsNearest world start nearer above content) {root : Directory}
    (same : ∀ path ∈ nearer ++ [above], world.SameWay root path fileName) :
    IsNearest { world with root } start nearer above content := by
  have isName : IsName fileName := by decide
  refine ⟨nearest.upwards, fun path member => ?_, ?_⟩
  · rw [(same path (List.mem_append_left _ member)).file?_eq isName]
    exact nearest.missing path member
  · rw [(same above (by simp)).file?_eq isName]
    exact nearest.found

/-- The names of a path lead to entries of directories, two points apart. -/
theorem isName_of_mem_names {path : Path} {name : String} (member : name ∈ path.names) (other : name ≠ "..") :
    IsName name := by
  rw [Path.names_eq] at member
  obtain ⟨piece, inside, rfl⟩ := List.mem_map.mp member
  obtain ⟨within, leading⟩ := List.mem_filter.mp inside
  obtain ⟨filled, point⟩ := of_decide_eq_true leading
  refine ⟨?_, ?_, other, ?_⟩
  · simpa using filled
  · rw [Ne, ← String.toList_inj, String.toList_ofList]
    exact point
  · rw [String.toList_ofList]
    exact Path.slash_not_mem_pieces within

theorem trailOf_names {names : List String} (areNames : ∀ name ∈ names, IsName name) (trail : List String) :
    trailOf trail (names.map String.toList) = names.reverse ++ trail := by
  induction names generalizing trail with
  | nil => rfl
  | cons name names ih =>
    obtain ⟨isName, others⟩ := List.forall_mem_cons.mp areNames
    rw [List.map_cons, trailOf, if_neg isName.still_ne, if_neg isName.points_ne, ih others, String.ofList_toList,
      List.reverse_cons, List.append_assoc, List.singleton_append]

theorem mem_passed_names {names : List String} (areNames : ∀ name ∈ names, IsName name) {trail place : List String}
    (member : place ∈ passed trail (names.map String.toList)) : place <+: trail.reverse ++ names := by
  induction names generalizing trail with
  | nil => cases member
  | cons name names ih =>
    obtain ⟨isName, others⟩ := List.forall_mem_cons.mp areNames
    rw [List.map_cons, passed, if_neg isName.still_ne, if_neg isName.points_ne, String.ofList_toList] at member
    have split : trail.reverse ++ name :: names = (name :: trail).reverse ++ names := by simp
    rw [split]
    rcases List.mem_cons.mp member with rfl | later
    · exact List.prefix_append _ _
    · exact ih others later

section

variable (placed : world.Placed) {path : Path} (plain : ".." ∉ path.names)
include placed plain

theorem areNames_of_plain : ∀ name ∈ startOf world path ++ path.names, IsName name := by
  intro name member
  rcases List.mem_append.mp member with current | own
  · rw [startOf] at current
    split at current
    · cases current
    · exact placed name current
  · exact isName_of_mem_names own fun points => plain (points ▸ own)

theorem placeOf_plain : world.placeOf path = startOf world path ++ path.names := by
  rw [World.placeOf, way_eq, trailOf_names (areNames_of_plain placed plain), List.append_nil, List.reverse_reverse]

theorem mem_passedTo_plain {place : List String} (member : place ∈ world.passedTo path) :
    place <+: startOf world path ++ path.names := by
  rw [World.passedTo, way_eq] at member
  exact mem_passed_names (areNames_of_plain placed plain) member

end

theorem IsNearest.names_starts (nearest : IsNearest world start nearer above content) {path : Path}
    (member : path ∈ nearer ++ [above]) :
    above.names <+: path.names ∧ above.isAbsolute = path.isAbsolute ∧ path.names <+: start.names := by
  have up := upwards_ancestors start
  obtain ⟨further, is⟩ := nearest.upwards
  have own := (up.names_starts (nearest.upwards.subset member)).1
  rcases List.mem_append.mp member with passed | last
  · obtain ⟨before, after, rfl⟩ := List.append_of_mem passed
    have split : start.ancestors = before ++ path :: (after ++ above :: further) := by simp [← is]
    have later : above ∈ path :: (after ++ above :: further) := by simp
    obtain ⟨starts, absolute⟩ := (up.onward split).names_starts later
    exact ⟨starts, absolute, own⟩
  · obtain rfl := List.mem_singleton.mp last
    exact ⟨List.prefix_rfl, rfl, own⟩

/-- If a path has no two points in it, the tree can be changed everywhere outside the directory with the nearest
configuration file. -/
theorem IsNearest.sameWay_of_plain (nearest : IsNearest world start nearer above content) (placed : world.Placed)
    (plain : ".." ∉ start.names) {root : Directory}
    (same : (Entry.directory root).at? (world.placeOf above) = (Entry.directory world.root).at? (world.placeOf above))
    {path : Path} (member : path ∈ nearer ++ [above]) : world.SameWay root path fileName := by
  have plainUp : ∀ path ∈ nearer ++ [above], ".." ∉ path.names := by
    intro path member points
    exact plain ((nearest.names_starts member).2.2.subset points)
  obtain ⟨⟨more, below⟩, absolute, -⟩ := nearest.names_starts member
  have place : startOf world path ++ path.names = world.placeOf above ++ more := by
    rw [placeOf_plain placed (plainUp above (by simp)), startOf, startOf, absolute, ← below, List.append_assoc]
  have directory : DirectoryAt world.root (world.placeOf above) := by
    obtain ⟨-, here⟩ := (World.file?_join_iff (by decide) content).mp nearest.found
    obtain ⟨entry, found, -⟩ := Option.bind_eq_some_iff.mp here
    exact Files.directoryAt_of_below found
  have changed : DirectoryAt root (world.placeOf above) := by
    obtain ⟨entries, found⟩ := directory
    exact ⟨entries, same.trans found⟩
  constructor
  · intro passed through
    have starts := mem_passedTo_plain placed (plainUp path member) through
    rw [place] at starts
    rcases List.prefix_or_prefix_of_prefix starts (List.prefix_append _ more) with outside | ⟨rest, rfl⟩
    · exact iff_of_true (changed.of_starts outside) (directory.of_starts outside)
    · rw [DirectoryAt, DirectoryAt, Files.at?_below same]
  · rw [placeOf_plain placed (plainUp path member), place, List.append_assoc, contentAt?, contentAt?,
      Files.at?_below same]

/-- The configuration of a path comes from one file at most: the first configuration file on the way upwards from the
path, its own directory included. If that file is of use, it gives the settings and the warnings, and if it is not, the
settings are the defaults and the problem is the only warning. Without a configuration file the settings are the defaults
and there is no warning. Whatever is changed in the tree of files at places that are not on the way to that file or to the
nearer places without one, the outcome is the same; if the path has no two points in it, that is everything outside the
directory of the file. -/
theorem nearest_file_decides (world : World) (start : Path) :
    start.Upwards start.ancestors ∧
      ((∀ path ∈ start.ancestors, world.file? (path.join fileName) = none) ∨
        ∃ nearer above content, IsNearest world start nearer above content) ∧
      ((∀ path ∈ start.ancestors, world.file? (path.join fileName) = none) →
        (choose world start).result = { settings := {}, warnings := [] }) ∧
      ∀ nearer above content, IsNearest world start nearer above content →
        (∀ loaded, load (above.join fileName) content = .ok loaded → (choose world start).result = loaded) ∧
        (∀ problem, load (above.join fileName) content = .error problem →
          (choose world start).result = { settings := {}, warnings := [problem.message] }) ∧
        ∀ root : Directory,
          ((∀ path ∈ nearer ++ [above], world.SameWay root path fileName) →
            choose { world with root } start = choose world start) ∧
          (world.Placed → ".." ∉ start.names →
            (Entry.directory root).at? (world.placeOf above) = (Entry.directory world.root).at? (world.placeOf above) →
            choose { world with root } start = choose world start) := by
  refine ⟨upwards_ancestors start, nearest_or_none world start, fun missing => ?_, ?_⟩
  · simp only [choose, find?_none missing, Choice.result]
  · intro nearer above content nearest
    have elsewhere : ∀ root : Directory, (∀ path ∈ nearer ++ [above], world.SameWay root path fileName) →
        choose { world with root } start = choose world start := by
      intro root same
      rw [choose, choose, find?_nearest (nearest.of_sameWay same), find?_nearest nearest]
    refine ⟨fun loaded => result_of_loads nearest, fun problem => result_of_fails nearest, fun root => ⟨elsewhere root, ?_⟩⟩
    intro placed plain same
    exact elsewhere root fun path => nearest.sameWay_of_plain placed plain same

/-- A configuration at the root, one that cannot be read in a project, and a directory with the name of one inside. -/
def brokenNearest : World where
  root := [("namelint.toml", .file (.text "[rules]\nhooks = false\n")),
    ("project", .directory [("namelint.toml", .file (.text "[rules\n")),
      ("src", .directory [("namelint.toml", .directory []), ("lib", .directory [])])])]

/-- The same project without the configuration at the root, and with other things there. -/
def movedProject : Directory :=
  [("other", .directory [("namelint.toml", .file (.text "[rules]\nnaming = false\n"))]), ("lib", .file (.text "")),
    ("project", .directory [("namelint.toml", .file (.text "[rules\n")),
      ("src", .directory [("namelint.toml", .directory []), ("lib", .directory [])])])]

theorem brokenNearest_decides :
    (IsNearest brokenNearest "/project/src/lib/.." ["/project/src/lib/..", "/project/src/lib", "/project/src"] "/project"
        (.text "[rules\n") ∧
      (choose brokenNearest "/project/src/lib/..").result = { settings := {}, warnings :=
        ["Invalid TOML in '/project/namelint.toml': invalid table header\nexpected `.`, `]`"] } ∧
      choose { brokenNearest with root := movedProject } "/project/src/lib/.." =
        choose brokenNearest "/project/src/lib/..") ∧
      (brokenNearest.Placed ∧ ".." ∉ Path.names "/project/src" ∧
        choose { brokenNearest with root := movedProject } "/project/src" = choose brokenNearest "/project/src") ∧
      (choose brokenNearest "/").result = { settings := { hooks := some false } } ∧
      (choose { brokenNearest with root := movedProject } "/lib").result = {} := by
  have nearest : IsNearest brokenNearest "/project/src/lib/.."
      ["/project/src/lib/..", "/project/src/lib", "/project/src"] "/project" (.text "[rules\n") :=
    ⟨by decide +kernel, by decide +kernel, by decide +kernel⟩
  have inside : IsNearest brokenNearest "/project/src" ["/project/src"] "/project" (.text "[rules\n") :=
    ⟨by decide +kernel, by decide +kernel, by decide +kernel⟩
  have top : IsNearest brokenNearest "/" [] "/" (.text "[rules]\nhooks = false\n") :=
    ⟨by decide +kernel, by simp, by decide +kernel⟩
  have missing : ∀ path ∈ Path.ancestors "/lib",
      World.file? { brokenNearest with root := movedProject } (path.join fileName) = none := by decide +kernel
  have placed : brokenNearest.Placed := show ∀ name ∈ brokenNearest.current, IsName name by decide
  have plain : ".." ∉ Path.names "/project/src" := by decide +kernel
  have fails : (load (Path.join "/project" fileName) (.text "[rules\n")).mapError Problem.message =
      .error "Invalid TOML in '/project/namelint.toml': invalid table header\nexpected `.`, `]`" := by decide +kernel
  have loads : (load (Path.join "/" fileName) (.text "[rules]\nhooks = false\n")).mapError Problem.message =
      .ok { settings := { hooks := some false } } := by decide +kernel
  obtain ⟨-, -, -, decided⟩ := nearest_file_decides brokenNearest "/project/src/lib/.."
  obtain ⟨-, unusable, elsewhere⟩ := decided _ _ _ nearest
  obtain ⟨-, -, -, decidedInside⟩ := nearest_file_decides brokenNearest "/project/src"
  obtain ⟨-, -, -, decidedTop⟩ := nearest_file_decides brokenNearest "/"
  obtain ⟨-, -, default, -⟩ := nearest_file_decides { brokenNearest with root := movedProject } "/lib"
  refine ⟨⟨nearest, ?_, (elsewhere movedProject).1 (by decide +kernel)⟩, ⟨placed, plain, ?_⟩, ?_, default missing⟩
  · cases outcome : load (Path.join "/project" fileName) (.text "[rules\n") with
    | ok loaded =>
      rw [outcome] at fails
      cases fails
    | error problem =>
      rw [outcome] at fails
      rw [unusable problem outcome, Except.error.inj fails]
  · exact ((decidedInside _ _ _ inside).2.2 movedProject).2 placed plain rfl
  · cases outcome : load (Path.join "/" fileName) (.text "[rules]\nhooks = false\n") with
    | ok loaded =>
      rw [outcome] at loads
      rw [(decidedTop _ _ _ top).1 loaded outcome, Except.ok.inj loads]
    | error problem =>
      rw [outcome] at loads
      cases loads

end Config

end NameCheck
