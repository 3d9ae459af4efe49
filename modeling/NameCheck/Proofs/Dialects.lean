import NameCheck.Proofs.Discovery
import NameCheck.Script

/-!
By which grammar a file is read. A search knows source files by the ending of their last name, and a script is read by the
grammar for the text behind the last point of its whole path. The two are the same text if the path ends with its last
name (`extensionOf_lastName`), and a path that leads to a file does (`not_endsOpen`).
-/
namespace NameCheck

open Files (Content Directory Entry Path SourceFile World discover? isSourceName lastName resolve sourceEndings)
open Files.Path (glue leads parts pieces)

/-- A path that ends with something else than a name: with a slash, or with a slash and a point. -/
def Files.Path.EndsOpen (path : Path) : Prop := "/".toList <:+ path.toList ∨ "/.".toList <:+ path.toList

instance (path : Path) : Decidable path.EndsOpen := inferInstanceAs (Decidable (_ ∨ _))

/-! ## The last name -/

theorem glue_concat {ps : List (List Char)} (filled : ps ≠ []) (last : List Char) :
    glue (ps ++ [last]) = glue ps ++ '/' :: last := by
  induction ps with
  | nil => exact absurd rfl filled
  | cons piece rest ih =>
    cases rest with
    | nil =>
      rw [List.singleton_append, Path.glue_cons_cons]
      simp [glue, List.intercalate]
    | cons next rest =>
      rw [List.cons_append, List.cons_append, Path.glue_cons_cons, Path.glue_cons_cons, ← List.cons_append,
        ih (List.cons_ne_nil _ _), List.append_assoc, List.cons_append]

/-- A path that ends with no slash and no point behind one ends with its last name, if it has names. -/
theorem ends_with_lastName {path : Path} (closed : ¬ path.EndsOpen) {name : String}
    (last : path.names.getLast? = some name) : name.toList <:+ path.toList := by
  obtain ⟨ps, piece, split⟩ : ∃ ps piece, pieces path.toList = ps ++ [piece] := by
    have nonempty : pieces path.toList ≠ [] := by
      rw [Path.pieces_eq_splitOn]
      exact List.splitOn_ne_nil '/' _
    exact ⟨_, _, (List.dropLast_concat_getLast nonempty).symm⟩
  have text : path.toList = glue (ps ++ [piece]) := by rw [← split, Path.glue_pieces]
  have names : path.names = (ps.filter leads ++ [piece].filter leads).map String.ofList := by
    rw [Path.names_eq, parts, split, List.filter_append]
  by_cases leading : leads piece = true
  · rw [names, List.filter_cons_of_pos leading, List.filter_nil, List.map_append, List.map_singleton,
      List.getLast?_concat] at last
    obtain rfl := Option.some.inj last
    rw [String.toList_ofList, text]
    by_cases only : ps = []
    · subst only
      simp [glue, List.intercalate]
    · rw [glue_concat only]
      exact (List.suffix_cons _ _).trans (List.suffix_append _ _)
  · -- The last piece is nothing or a point. It stands behind a slash, or there is no name at all.
    have still : piece = [] ∨ piece = ['.'] := by
      by_contra other
      exact leading (decide_eq_true (not_or.mp other))
    by_cases only : ps = []
    · subst only
      rw [names, List.filter_cons_of_neg leading] at last
      cases last
    · rw [glue_concat only] at text
      refine absurd ?_ closed
      rcases still with rfl | rfl
      · exact .inl ⟨_, text.symm⟩
      · exact .inr ⟨_, text.symm⟩

theorem getLast?_of_lastName {path : Path} (something : lastName path ≠ "") :
    path.names.getLast? = some (lastName path) := by
  unfold lastName at something ⊢
  split at something
  · next name last =>
    have other : ¬ name = ".." := fun points => something (if_pos points)
    rw [last]
    exact congrArg some (if_neg other).symm
  · exact absurd rfl something

/-! ## Endings -/

theorem Dialect.extensionOf_append (before : List Char) {ending : List Char} (plain : '.' ∉ ending) :
    Dialect.extensionOf (before ++ '.' :: ending) = ending := by
  have all : ∀ c ∈ ending.reverse, (c != '.') = true := by
    intro c member
    rw [bne_iff_ne]
    rintro rfl
    exact plain (List.mem_reverse.mp member)
  have point : (before ++ '.' :: ending).contains '.' = true := by simp
  have reversed : (before ++ '.' :: ending).reverse = ending.reverse ++ '.' :: before.reverse := by simp
  rw [Dialect.extensionOf, if_pos point, reversed, List.takeWhile_append_of_pos all]
  simp

/-- The text behind the last point of the path of a source file is the ending of its last name. -/
theorem extensionOf_lastName {path : Path} (closed : ¬ path.EndsOpen) (source : isSourceName (lastName path) = true) :
    ∃ ending ∈ sourceEndings, Path.ending? (lastName path) = some ending ∧
      Dialect.extensionOf path.toList = ending.toList := by
  rw [isSourceName] at source
  split at source
  · next ending is =>
    refine ⟨ending, List.contains_iff_mem.mp source, is, ?_⟩
    obtain ⟨stem, filled, plain, named⟩ := Files.ending?_eq_some.mp is
    have something : lastName path ≠ "" := by
      rw [named]
      simp
    obtain ⟨before, text⟩ := ends_with_lastName closed (getLast?_of_lastName something)
    have split : path.toList = (before ++ stem.toList) ++ '.' :: ending.toList := by
      rw [← text, named]
      simp
    rw [split, Dialect.extensionOf_append _ plain]
  · cases source

/-- The grammar that the ending of a source file asks for. -/
structure Dialect.Follows (dialect : Dialect) (ending : String) : Prop where
  typeScript : dialect = .typeScript ↔ ending ∈ ["ts", "mts", "cts"]
  tsx : dialect = .tsx ↔ ending = "tsx"
  javaScript : dialect = .javaScript ↔ ending ∈ ["js", "jsx", "mjs", "cjs"]

theorem Dialect.ofFilename_follows {path : Path} {ending : String} (member : ending ∈ sourceEndings)
    (same : Dialect.extensionOf path.toList = ending.toList) : (Dialect.ofFilename path).Follows ending := by
  -- The text before the last point plays no part, so that eight names are left to look at.
  have alone : Dialect.ofFilename path = Dialect.ofFilename ("." ++ ending) := by
    have plain : ∀ ending ∈ sourceEndings, '.' ∉ ending.toList := by decide
    have own : Dialect.extensionOf ("." ++ ending).toList = ending.toList := by
      rw [String.toList_append]
      exact Dialect.extensionOf_append [] (plain ending member)
    rw [Dialect.ofFilename, Dialect.ofFilename, same, own]
  have each : ∀ ending ∈ sourceEndings, let dialect := Dialect.ofFilename ("." ++ ending)
      (dialect = .typeScript ↔ ending ∈ ["ts", "mts", "cts"]) ∧ (dialect = .tsx ↔ ending = "tsx") ∧
        (dialect = .javaScript ↔ ending ∈ ["js", "jsx", "mjs", "cjs"]) := by
    decide
  obtain ⟨typeScript, tsx, javaScript⟩ := each ending member
  rw [alone]
  exact ⟨typeScript, tsx, javaScript⟩

theorem ofFilename_lastName {path : Path} (closed : ¬ path.EndsOpen) (source : isSourceName (lastName path) = true) :
    ∃ ending, Path.ending? (lastName path) = some ending ∧ Dialect.extensionOf path.toList = ending.toList ∧
      (Dialect.ofFilename path).Follows ending := by
  obtain ⟨ending, member, is, same⟩ := extensionOf_lastName closed source
  exact ⟨ending, is, same, Dialect.ofFilename_follows member same⟩

/-! ## Files -/

theorem resolve_point (current : Directory) (around : List Directory) (ps : List (List Char)) :
    resolve current around (ps ++ [['.']]) = (resolve current around ps).bind Entry.directory? :=
  Files.resolve_concat (fun _ => rfl) (fun _ _ => rfl) current around ps

/-- Behind a file there is no slash. -/
theorem not_endsOpen {world : World} {path : Path} {content : Content}
    (found : world.find? path = some (.file content)) : ¬ path.EndsOpen := by
  have noFile : ∀ entry : Entry, entry.directory? ≠ some (.file content) := by
    intro entry
    cases entry <;> nofun
  rw [World.find?_eq (World.find?_ne_empty found)] at found
  rintro (⟨before, is⟩ | ⟨before, is⟩)
  · have last : pieces path.toList = pieces before ++ [[]] := by
      rw [← is]
      exact Path.pieces_slash before []
    rw [last, ← List.append_assoc, Files.resolve_slash] at found
    obtain ⟨entry, -, is⟩ := Option.bind_eq_some_iff.mp found
    exact noFile entry is
  · have last : pieces path.toList = pieces before ++ [['.']] := by
      rw [← is]
      exact Path.pieces_slash before ['.']
    rw [last, ← List.append_assoc, resolve_point] at found
    obtain ⟨entry, -, is⟩ := Option.bind_eq_some_iff.mp found
    exact noFile entry is

theorem dialect_read? {filename source : String} {script : Script} (read : Script.read? filename source = some script) :
    script.dialect = Dialect.ofFilename filename := by
  obtain ⟨outcome, -, rfl⟩ := Option.map_eq_some_iff.mp read
  rfl

/-- Let a path end neither with a slash nor with a slash and a point, and its last name have a source ending. Then the
ending is the text behind the last point of the path, and the grammar for the path is the one that the ending asks for.
All files that a search finds have such paths, so each of them is read by the grammar that its ending asks for. -/
theorem dialects_follow_endings :
    (∀ path : Path, ¬ path.EndsOpen → isSourceName (lastName path) = true →
      ∃ ending, Path.ending? (lastName path) = some ending ∧ Dialect.extensionOf path.toList = ending.toList ∧
        (Dialect.ofFilename path).Follows ending) ∧
      ∀ world : World, (Entry.directory world.root).Proper → ∀ path files, discover? world path = some files →
        ∀ file ∈ files, ¬ file.path.EndsOpen ∧
          ∃ ending, Path.ending? (lastName file.path) = some ending ∧
            ∀ text script, file.content = .text text → Script.read? file.path text = some script →
              script.dialect.Follows ending := by
  refine ⟨fun path => ofFilename_lastName, fun world proper path files found file member => ?_⟩
  have isFound := (Files.mem_discover? proper found file).mp member
  have closed := not_endsOpen (World.file?_eq_some.mp isFound.regular)
  obtain ⟨ending, is, -, follows⟩ := ofFilename_lastName closed ((Files.isSourceName_lastName _).mpr isFound.source)
  refine ⟨closed, ending, is, fun text script _ read => ?_⟩
  rw [dialect_read? read]
  exact follows

/-- A hidden name with two points, below a directory with points in its name; and a file that a search finds below a
directory with a source ending. -/
theorem pointedNames_follow :
    (¬ Path.EndsOpen "v1.2.js/../.d.mts" ∧ isSourceName (lastName "v1.2.js/../.d.mts") = true ∧
      Dialect.ofFilename "v1.2.js/../.d.mts" = .typeScript) ∧
      (Entry.directory Files.installed.root).Proper ∧ ∃ files script,
        discover? Files.installed "node_modules" = some files ∧ ⟨"node_modules/lib.js/in.d.mts", .text ""⟩ ∈ files ∧
        Script.read? "node_modules/lib.js/in.d.mts" "" = some script ∧ script.dialect = .typeScript := by
  obtain ⟨paths, searches⟩ := dialects_follow_endings
  have closed : ¬ Path.EndsOpen "v1.2.js/../.d.mts" := by decide
  have source : isSourceName (lastName "v1.2.js/../.d.mts") = true := by decide
  have first : Path.ending? (lastName "v1.2.js/../.d.mts") = some "mts" := by decide
  have second : Path.ending? (lastName "node_modules/lib.js/in.d.mts") = some "mts" := by decide
  obtain ⟨ending, is, -, follows⟩ := paths _ closed source
  obtain rfl := Option.some.inj (first.symm.trans is)
  have member : SourceFile.mk "node_modules/lib.js/in.d.mts" (.text "") ∈ [SourceFile.mk "node_modules/a/z.cts"
      (.unreadable "denied"), ⟨"node_modules/a-b.js", .text ""⟩, ⟨"node_modules/lib.js/in.d.mts", .text ""⟩] := by
    decide
  have answers : (Script.read? "node_modules/lib.js/in.d.mts" "").isSome = true := by decide +kernel
  obtain ⟨script, read⟩ := Option.isSome_iff_exists.mp answers
  obtain ⟨-, other, same, reads⟩ :=
    searches _ Files.installed_proper _ _ Files.discover?_installed _ member
  obtain rfl := Option.some.inj (second.symm.trans same)
  refine ⟨⟨closed, source, follows.typeScript.mpr (by decide)⟩, Files.installed_proper, _, script,
    Files.discover?_installed, member, read, ?_⟩
  exact (reads "" script rfl read).typeScript.mpr (by decide)

end NameCheck
