import Mathlib.Data.List.DropRight
import NameCheck.Proofs.Pieces
import NameCheck.Proofs.Suppressions

/-!
How directives are written. White space may stand around the word of a directive and around each reference, and blank
pieces between commas list nothing (`WritesRefs`). A comment is read as a directive with some references just if it
writes them (`writesRefs_pieces`, `WritesRefs.listedRefs_intercalate`), whatever the white space.
-/
namespace NameCheck

open Text (isBlank trim trimRight)

/-! ## White space -/

/-- A text of white space only. -/
def AllBlank (cs : List Char) : Prop := ∀ c ∈ cs, isBlank c = true

/-- A text without white space at its ends. -/
structure Trimmed (cs : List Char) : Prop where
  head : ∀ c, cs.head? = some c → isBlank c = false
  last : ∀ c, cs.getLast? = some c → isBlank c = false

theorem trimRight_eq (cs : List Char) : trimRight cs = cs.rdropWhile isBlank := rfl

theorem trim_blank_append {lead : List Char} (blank : AllBlank lead) (cs : List Char) :
    trim (lead ++ cs) = trim cs := by
  rw [trim, trim, List.dropWhile_append_of_pos blank]

theorem trim_append_blank (cs : List Char) {trail : List Char} (blank : AllBlank trail) :
    trim (cs ++ trail) = trim cs := by
  have right : ∀ cs : List Char, trimRight (cs ++ trail) = trimRight cs := by
    intro cs
    have all : ∀ c ∈ trail.reverse, isBlank c = true := fun c member => blank c (List.mem_reverse.mp member)
    rw [trimRight, trimRight, List.reverse_append, List.dropWhile_append_of_pos all]
  rw [trim, trim, List.dropWhile_append]
  split
  · next empty =>
    rw [List.isEmpty_iff.mp empty, List.dropWhile_eq_nil_iff.mpr blank]
  · exact right _

theorem trim_eq_nil {cs : List Char} : trim cs = [] ↔ AllBlank cs := by
  rw [trim, trimRight_eq, List.rdropWhile_eq_nil_iff]
  constructor
  · intro all c member
    rw [← List.takeWhile_append_dropWhile (p := isBlank) (l := cs), List.mem_append] at member
    exact member.elim List.mem_takeWhile_imp (all c)
  · intro blank c member
    exact blank c ((List.dropWhile_sublist _).subset member)

theorem trimRight_append {core : List Char} (trimmed : Trimmed core) (rest : List Char) :
    trimRight (core ++ rest) = core ++ trimRight rest := by
  rw [trimRight_eq, trimRight_eq]
  induction rest using List.reverseRecOn with
  | nil =>
    rw [List.append_nil, List.rdropWhile_nil, List.append_nil, List.rdropWhile_eq_self_iff]
    intro filled
    simp [trimmed.last _ (List.getLast?_eq_some_getLast filled)]
  | append_singleton rest c ih =>
    rw [← List.append_assoc, List.rdropWhile_concat, List.rdropWhile_concat, ih]
    split
    · rfl
    · exact List.append_assoc core rest [c]

/-- Trimming keeps what stands before a text without white space at its ends. -/
theorem trim_start {core : List Char} (trimmed : Trimmed core) (filled : core ≠ []) (rest : List Char) :
    trim (core ++ rest) = core ++ trimRight rest := by
  obtain ⟨c, more, rfl⟩ := List.exists_cons_of_ne_nil filled
  rw [trim, List.cons_append, List.dropWhile_cons_of_neg (by simp [trimmed.head c rfl]), ← List.cons_append,
    trimRight_append trimmed]

theorem trimmed_trim (cs : List Char) : Trimmed (trim cs) := by
  refine ⟨fun c first => ?_, fun c last => ?_⟩
  · have starts : (cs.dropWhile isBlank).head? = some c := by
      obtain ⟨rest, is⟩ := List.rdropWhile_prefix isBlank (cs.dropWhile isBlank)
      rw [trim, trimRight_eq] at first
      rw [← is, List.head?_append, first]
      rfl
    have stops := List.head?_dropWhile_not isBlank cs
    rw [starts] at stops
    exact stops
  · obtain ⟨filled, rfl⟩ := List.mem_getLast?_eq_getLast last
    exact Bool.eq_false_iff.mpr (List.rdropWhile_last_not isBlank _ filled)

/-- Trimming takes away the white space around a text. -/
theorem exists_trim (cs : List Char) :
    ∃ lead trail, cs = lead ++ trim cs ++ trail ∧ AllBlank lead ∧ AllBlank trail := by
  refine ⟨cs.takeWhile isBlank, (cs.dropWhile isBlank).rtakeWhile isBlank, ?_, ?_, ?_⟩
  · rw [trim, trimRight_eq, List.append_assoc, List.rdropWhile_append_rtakeWhile, List.takeWhile_append_dropWhile]
  · exact fun c member => List.mem_takeWhile_imp member
  · exact fun c member => List.mem_rtakeWhile_imp member

/-! ## Pieces between commas -/

theorem AllBlank.plain {cs : List Char} (blank : AllBlank cs) : ',' ∉ cs := by
  intro comma
  have := blank ',' comma
  revert this
  decide

/-- The references in pieces of a text. -/
def refsOf (pieces : List (List Char)) : List String := ((pieces.map trim).filter (!·.isEmpty)).map String.ofList

theorem listedRefs_eq (rest : List Char) : listedRefs rest = refsOf (Text.pieces ',' rest) := rfl

/-- White space behind a text lists nothing more. -/
theorem listedRefs_append_blank (rest : List Char) {trail : List Char} (blank : AllBlank trail) :
    listedRefs (rest ++ trail) = listedRefs rest := by
  obtain ⟨pieces, last, is, are⟩ := Text.pieces_append blank.plain rest
  rw [listedRefs_eq, listedRefs_eq, is, are, refsOf, refsOf, List.map_append, List.map_append, List.map_singleton,
    List.map_singleton, trim_append_blank last blank]

/-- White space before a text lists nothing more. -/
theorem listedRefs_blank_cons {c : Char} (blank : isBlank c = true) (rest : List Char) :
    listedRefs (c :: rest) = listedRefs rest := by
  have single : AllBlank [c] := by simpa [AllBlank] using blank
  have other : ¬ (c == ',') = true := by
    rw [beq_iff_eq]
    rintro rfl
    exact single.plain List.mem_cons_self
  rw [listedRefs_eq, listedRefs_eq, Text.pieces_eq_splitOn, Text.pieces_eq_splitOn, List.splitOn_cons_eq_if_modifyHead, if_neg other]
  cases rest.splitOn ',' with
  | nil => rfl
  | cons piece pieces =>
    have same := trim_blank_append single piece
    rw [List.singleton_append] at same
    rw [List.modifyHead_cons, refsOf, refsOf, List.map_cons, List.map_cons, same]

/-! ## Written references -/

/-- A text that can be listed as a reference. -/
structure IsRef (ref : String) : Prop where
  filled : ref ≠ ""
  plain : ',' ∉ ref.toList
  trimmed : Trimmed ref.toList

/-- Pieces between commas that write references: one to a piece, in order and with white space around it, besides pieces
of white space. -/
inductive WritesRefs : List (List Char) → List String → Prop where
  | nil : WritesRefs [] []
  | blank {piece : List Char} {pieces : List (List Char)} {refs : List String} (blank : AllBlank piece)
    (rest : WritesRefs pieces refs) : WritesRefs (piece :: pieces) refs
  | ref {before after : List Char} {ref : String} {pieces : List (List Char)} {refs : List String}
    (lead : AllBlank before) (isRef : IsRef ref) (trail : AllBlank after) (rest : WritesRefs pieces refs) :
    WritesRefs ((before ++ ref.toList ++ after) :: pieces) (ref :: refs)

namespace WritesRefs

variable {pieces : List (List Char)} {refs : List String}

theorem plain (writes : WritesRefs pieces refs) : ∀ piece ∈ pieces, ',' ∉ piece := by
  induction writes with
  | nil => simp
  | blank blank rest ih => exact List.forall_mem_cons.mpr ⟨blank.plain, ih⟩
  | ref lead isRef trail rest ih =>
    refine List.forall_mem_cons.mpr ⟨?_, ih⟩
    simp [lead.plain, isRef.plain, trail.plain]

/-- What is written is read. -/
theorem refsOf_eq (writes : WritesRefs pieces refs) : refsOf pieces = refs := by
  induction writes with
  | nil => rfl
  | blank blank rest ih =>
    rw [refsOf, List.map_cons, trim_eq_nil.mpr blank]
    exact ih
  | @ref before after ref pieces refs lead isRef trail rest ih =>
    have filled : ref.toList ≠ [] := fun empty => isRef.filled (String.toList_eq_nil_iff.mp empty)
    have trimmed : trim (before ++ ref.toList ++ after) = ref.toList := by
      rw [trim_append_blank _ trail, trim_blank_append lead, ← List.append_nil ref.toList,
        trim_start isRef.trimmed filled]
      rfl
    rw [refsOf, List.map_cons, trimmed, List.filter_cons_of_pos (by simpa using filled), List.map_cons,
      String.ofList_toList]
    exact congrArg (ref :: ·) ih

theorem listedRefs_intercalate (writes : WritesRefs pieces refs) :
    listedRefs (List.intercalate [','] pieces) = refs := by
  by_cases empty : pieces = []
  · subst empty
    cases writes
    rfl
  · rw [listedRefs_eq, Text.pieces_eq_splitOn, List.splitOn_intercalate ',' writes.plain empty, writes.refsOf_eq]

end WritesRefs

/-- What is read is written. -/
theorem writesRefs_refsOf {pieces : List (List Char)} (plain : ∀ piece ∈ pieces, ',' ∉ piece) :
    WritesRefs pieces (refsOf pieces) := by
  induction pieces with
  | nil => exact .nil
  | cons piece pieces ih =>
    obtain ⟨first, others⟩ := List.forall_mem_cons.mp plain
    by_cases blank : AllBlank piece
    · have skipped : refsOf (piece :: pieces) = refsOf pieces := by
        rw [refsOf, List.map_cons, trim_eq_nil.mpr blank]
        rfl
      rw [skipped]
      exact .blank blank (ih others)
    · obtain ⟨lead, trail, is, before, after⟩ := exists_trim piece
      have filled : trim piece ≠ [] := fun empty => blank (trim_eq_nil.mp empty)
      have listed : refsOf (piece :: pieces) = String.ofList (trim piece) :: refsOf pieces := by
        rw [refsOf, List.map_cons, List.filter_cons_of_pos (by simpa using filled), List.map_cons]
        rfl
      have comma : ',' ∉ trim piece := fun member => first (is ▸ by simp [member])
      have isRef : IsRef (String.ofList (trim piece)) :=
        ⟨by simpa using filled, by simpa using comma, by simpa using trimmed_trim piece⟩
      have writes := WritesRefs.ref before isRef after (ih others)
      rw [String.toList_ofList, ← is, ← listed] at writes
      exact writes

/-- The pieces of a text write what is listed there. -/
theorem writesRefs_pieces (rest : List Char) : WritesRefs (Text.pieces ',' rest) (listedRefs rest) :=
  writesRefs_refsOf fun _ => Text.separator_not_mem_pieces

/-- Nothing is listed just if there is nothing but white space and commas. -/
theorem listedRefs_eq_nil {rest : List Char} : listedRefs rest = [] ↔ ∀ c ∈ rest, isBlank c = true ∨ c = ',' := by
  have pieces : listedRefs rest = [] ↔ ∀ piece ∈ Text.pieces ',' rest, AllBlank piece := by
    simp [listedRefs_eq, refsOf, List.filter_eq_nil_iff, trim_eq_nil]
  rw [pieces]
  constructor
  · intro blank c member
    by_cases comma : c = ','
    · exact .inr comma
    · obtain ⟨piece, inside, within⟩ := (Text.mem_pieces rest c).mpr ⟨member, comma⟩
      exact .inl (blank piece inside c within)
  · intro all piece inside c within
    obtain ⟨member, other⟩ := (Text.mem_pieces rest c).mp ⟨piece, inside, within⟩
    exact (all c member).resolve_right other

/-! ## Written directives -/

/-- The words of directives on a line, each with the line that it is for. -/
inductive DirectiveWord (line : Nat) : List Char → Nat → Prop where
  | nextLine : DirectiveWord line nextLineWord (line + 1)
  | sameLine : DirectiveWord line sameLineWord line

/-- A comment that writes references behind the word of a directive: white space stands before the word and right behind
it, and then pieces with commas between them. -/
def WritesDirective (word : List Char) (refs : List String) (comment : List Char) : Prop :=
  ∃ lead separator pieces, AllBlank lead ∧ isBlank separator = true ∧ WritesRefs pieces refs ∧
    comment = lead ++ word ++ separator :: List.intercalate [','] pieces

variable {line target : Nat} {word : List Char}

theorem DirectiveWord.trimmed (is : DirectiveWord line word target) : Trimmed word := by
  have first : word.head? = some 'n' := by cases is <;> rfl
  have last : word.getLast? = some 'e' := by cases is <;> rfl
  refine ⟨fun c same => ?_, fun c same => ?_⟩
  · obtain rfl := Option.some.inj (first.symm.trans same)
    decide
  · obtain rfl := Option.some.inj (last.symm.trans same)
    decide

theorem DirectiveWord.filled (is : DirectiveWord line word target) : word ≠ [] := by
  cases is <;> decide

theorem AllBlank.endsWord {cs : List Char} (blank : AllBlank cs) : EndsWord cs := by
  cases cs with
  | nil => exact .inl rfl
  | cons c rest => exact .inr ⟨c, rest, rfl, blank c List.mem_cons_self⟩

/-- What trimming leaves of a text may stand behind the word of a directive if the text may. -/
theorem EndsWord.of_append {rest trail : List Char} (ends : EndsWord (rest ++ trail)) : EndsWord rest := by
  cases rest with
  | nil => exact .inl rfl
  | cons c rest =>
    rcases ends with empty | ⟨d, more, is, blank⟩
    · cases empty
    · obtain ⟨rfl, -⟩ := List.cons.inj is
      exact .inr ⟨c, rest, rfl, blank⟩

theorem EndsWord.append {rest trail : List Char} (ends : EndsWord rest) (blank : AllBlank trail) :
    EndsWord (rest ++ trail) := by
  rcases ends with rfl | ⟨c, more, rfl, first⟩
  · exact blank.endsWord
  · exact .inr ⟨c, more ++ trail, rfl, first⟩

theorem directs_iff_trim {comment : String} {refs : List String} :
    Directs line comment target refs ↔ ∃ word rest, DirectiveWord line word target ∧
      trim comment.toList = word ++ rest ∧ EndsWord rest ∧ refs = listedRefs rest := by
  constructor
  · rintro (⟨reads, ends⟩ | ⟨reads, ends⟩)
    · exact ⟨_, _, .nextLine, reads, ends, rfl⟩
    · exact ⟨_, _, .sameLine, reads, ends, rfl⟩
  · rintro ⟨word, rest, isWord, reads, ends, rfl⟩
    cases isWord with
    | nextLine => exact .nextLine reads ends
    | sameLine => exact .sameLine reads ends

/-- Trimming a comment changes neither whether it is a directive nor what it lists. -/
theorem directs_iff {comment : String} {refs : List String} :
    Directs line comment target refs ↔ ∃ word lead rest, DirectiveWord line word target ∧ AllBlank lead ∧
      comment.toList = lead ++ word ++ rest ∧ EndsWord rest ∧ refs = listedRefs rest := by
  rw [directs_iff_trim]
  constructor
  · rintro ⟨word, rest, isWord, reads, ends, rfl⟩
    obtain ⟨lead, trail, is, before, after⟩ := exists_trim comment.toList
    refine ⟨word, lead, rest ++ trail, isWord, before, ?_, ends.append after, ?_⟩
    · rw [reads] at is
      simpa using is
    · exact (listedRefs_append_blank rest after).symm
  · rintro ⟨word, lead, rest, isWord, before, is, ends, rfl⟩
    have parts : rest = trimRight rest ++ rest.rtakeWhile isBlank := (List.rdropWhile_append_rtakeWhile ..).symm
    have after : AllBlank (rest.rtakeWhile isBlank) := fun c member => List.mem_rtakeWhile_imp member
    refine ⟨word, trimRight rest, isWord, ?_, EndsWord.of_append (parts ▸ ends), ?_⟩
    · rw [is, List.append_assoc, trim_blank_append before, trim_start isWord.trimmed isWord.filled]
    · conv => lhs; rw [parts]
      exact listedRefs_append_blank _ after

theorem parseDirective_rules {comment : String} {refs : List String} :
    parseDirective line comment.toList = some (target, .rules refs) ↔ refs ≠ [] ∧ Directs line comment target refs := by
  rw [parseDirective_eq_some]
  constructor
  · rintro ⟨listed, directs, is⟩
    split at is
    · cases is
    · next filled =>
      obtain rfl := Suppression.rules.inj is
      exact ⟨filled, directs⟩
  · rintro ⟨filled, directs⟩
    exact ⟨refs, directs, (if_neg filled).symm⟩

theorem parseDirective_all {comment : String} :
    parseDirective line comment.toList = some (target, .all) ↔ Directs line comment target [] := by
  rw [parseDirective_eq_some]
  constructor
  · rintro ⟨listed, directs, is⟩
    split at is
    · next empty => exact empty ▸ directs
    · cases is
  · intro directs
    exact ⟨[], directs, rfl⟩

/-- A directive lists the references that it writes. -/
theorem directs_iff_writes {comment : String} {refs : List String} (filled : refs ≠ []) :
    Directs line comment target refs ↔
      ∃ word, DirectiveWord line word target ∧ WritesDirective word refs comment.toList := by
  rw [directs_iff]
  constructor
  · rintro ⟨word, lead, rest, isWord, before, is, ends, rfl⟩
    rcases ends with rfl | ⟨separator, more, rfl, blank⟩
    · exact absurd rfl filled
    · refine ⟨word, isWord, lead, separator, Text.pieces ',' more, before, blank, ?_, ?_⟩
      · rw [listedRefs_blank_cons blank]
        exact writesRefs_pieces more
      · rw [Text.pieces_eq_splitOn, List.intercalate_splitOn, is]
  · rintro ⟨word, isWord, lead, separator, pieces, before, blank, writes, is⟩
    refine ⟨word, lead, _, isWord, before, is, .inr ⟨_, _, rfl, blank⟩, ?_⟩
    rw [listedRefs_blank_cons blank, writes.listedRefs_intercalate]

/-- A comment is a directive just if, without the white space around it, it is the word of one with nothing or white
space behind it, and the word says for which line. It lists references just if it writes them, whatever the white space
and the blank pieces around them, and is for all rules just if there is nothing but white space and commas behind the
word. -/
theorem directives_read_as_written (line : Nat) (comment : String) :
    (∀ target, (∃ suppression, parseDirective line comment.toList = some (target, suppression)) ↔
      ∃ word rest, DirectiveWord line word target ∧ trim comment.toList = word ++ rest ∧ EndsWord rest) ∧
    (∀ target refs, parseDirective line comment.toList = some (target, .rules refs) ↔
      refs ≠ [] ∧ ∃ word, DirectiveWord line word target ∧ WritesDirective word refs comment.toList) ∧
    ∀ target, parseDirective line comment.toList = some (target, .all) ↔
      ∃ word lead rest, DirectiveWord line word target ∧ AllBlank lead ∧ comment.toList = lead ++ word ++ rest ∧
        EndsWord rest ∧ ∀ c ∈ rest, isBlank c = true ∨ c = ',' := by
  refine ⟨fun target => ?_, fun target refs => ?_, fun target => ?_⟩
  · simp only [parseDirective_eq_some, directs_iff_trim]
    constructor
    · rintro ⟨-, -, ⟨word, rest, isWord, reads, ends, -⟩, -⟩
      exact ⟨word, rest, isWord, reads, ends⟩
    · rintro ⟨word, rest, isWord, reads, ends⟩
      exact ⟨_, _, ⟨word, rest, isWord, reads, ends, rfl⟩, rfl⟩
  · rw [parseDirective_rules]
    exact and_congr_right directs_iff_writes
  · rw [parseDirective_all, directs_iff]
    simp only [← listedRefs_eq_nil, eq_comm (a := [])]

/-- Two references with unusual white space around them and around the word, and pieces of white space among them. -/
def spacedDirective : String := "\u2003namelint-disable-next-line\t N001\u00a0,,svg-file-name\u3000, "

theorem spacedDirective_read :
    WritesDirective nextLineWord ["N001", "svg-file-name"] spacedDirective.toList ∧
      parseDirective 4 spacedDirective.toList = some (5, .rules ["N001", "svg-file-name"]) := by
  have isRef : ∀ ref, ref ≠ "" → ',' ∉ ref.toList → trim ref.toList = ref.toList → IsRef ref :=
    fun ref filled plain same => ⟨filled, plain, same ▸ trimmed_trim _⟩
  have blank : ∀ cs : List Char, cs.all isBlank = true → AllBlank cs := fun cs => List.all_eq_true.mp
  have last : WritesRefs [" ".toList] [] := .blank (blank _ (by decide)) .nil
  have second : WritesRefs [[] ++ "svg-file-name".toList ++ "\u3000".toList, " ".toList] ["svg-file-name"] :=
    .ref (blank _ rfl) (isRef _ (by decide) (by decide) (by decide)) (blank _ (by decide)) last
  have first : WritesRefs [" ".toList ++ "N001".toList ++ "\u00a0".toList, [],
      [] ++ "svg-file-name".toList ++ "\u3000".toList, " ".toList] ["N001", "svg-file-name"] :=
    .ref (blank _ (by decide)) (isRef _ (by decide) (by decide) (by decide)) (blank _ (by decide))
      (.blank (blank _ rfl) second)
  have writes : WritesDirective nextLineWord ["N001", "svg-file-name"] spacedDirective.toList :=
    ⟨"\u2003".toList, '\t', _, blank _ (by decide), by decide, first, by decide⟩
  obtain ⟨-, rules, -⟩ := directives_read_as_written 4 spacedDirective
  exact ⟨writes, (rules 5 _).mpr ⟨by decide, nextLineWord, .nextLine, writes⟩⟩

end NameCheck
