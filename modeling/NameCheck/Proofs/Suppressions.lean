import Mathlib.Data.List.Nodup
import NameCheck.Analysis

/-!
What directives switch off. The entry of a line is merged out of all suppressions of the line, so what is switched off
is what some suppression covers (`isDisabled_after`), and each line with a suppression has one entry
(`mem_lines_after`, `nodup_lines_after`). A rule is switched off on a line if some comment is a directive for that line
that lists the rule or lists none (`isDisabled_ofComments`), so neither the order of comments nor their repetition
matters, and an analysis leaves out just what some comment of the script switches off.
-/
namespace NameCheck

attribute [local instance] Classical.propDecidable

/-! ## Directives as comments -/

/-- The references that stand, between commas, after the word of a directive. -/
def listedRefs (rest : List Char) : List String :=
  (((Text.pieces ',' rest).map Text.trim).filter (!·.isEmpty)).map String.ofList

/-- A text that the word of a directive may stand before: nothing, or one that white space starts. -/
def EndsWord (rest : List Char) : Prop := rest = [] ∨ ∃ c more, rest = c :: more ∧ Text.isBlank c = true

/-- A comment on a line is a directive for a line, which lists references. -/
inductive Directs (line : Nat) (comment : String) : Nat → List String → Prop where
  | nextLine {rest : List Char} (reads : Text.trim comment.toList = nextLineWord ++ rest) (ends : EndsWord rest) :
    Directs line comment (line + 1) (listedRefs rest)
  | sameLine {rest : List Char} (reads : Text.trim comment.toList = sameLineWord ++ rest) (ends : EndsWord rest) :
    Directs line comment line (listedRefs rest)

/-- Some comment switches a rule off on a line, given by a reference: it is a directive for that line which lists the
reference, or none at all. -/
def SwitchesOff (comments : List (Nat × String)) (line : Nat) (ref : String) : Prop :=
  ∃ comment ∈ comments, ∃ refs, Directs comment.1 comment.2 line refs ∧ (refs = [] ∨ ref ∈ refs)

theorem stripWord_eq_some {word cs rest : List Char} : stripWord word cs = some rest ↔ cs = word ++ rest := by
  unfold stripWord
  constructor
  · intro stripped
    split at stripped
    · rename_i starts
      obtain ⟨tail, rfl⟩ := List.isPrefixOf_iff_prefix.mp starts
      simp_all
    · cases stripped
  · rintro rfl
    simp

theorem parseRefs_eq {rest : List Char} {suppression : Suppression} :
    parseRefs rest = some suppression ↔
      EndsWord rest ∧ suppression = if listedRefs rest = [] then .all else .rules (listedRefs rest) := by
  have blank : ((rest.head?.map Text.isBlank).getD true = true) ↔ EndsWord rest := by
    cases rest with
    | nil => simp [EndsWord]
    | cons c more => simp [EndsWord]
  unfold parseRefs
  by_cases ends : EndsWord rest
  · have lists : (if (((Text.pieces ',' rest).map Text.trim).filter (!·.isEmpty)).isEmpty then Suppression.all
        else .rules ((((Text.pieces ',' rest).map Text.trim).filter (!·.isEmpty)).map String.ofList)) =
        if listedRefs rest = [] then .all else .rules (listedRefs rest) := by
      simp only [listedRefs, List.map_eq_nil_iff, List.isEmpty_iff]
    rw [if_pos (blank.mpr ends)]
    simp only [lists, Option.some.injEq, ends, true_and]
    exact eq_comm
  · rw [if_neg (fun holds => ends (blank.mp holds))]
    simp [ends]

/-- No text starts with both words of directives. -/
theorem stripWord_sameLine (rest : List Char) : stripWord nextLineWord (sameLineWord ++ rest) = none := rfl

/-- A comment is read as a directive just if it is one. -/
theorem parseDirective_eq_some {line : Nat} {comment : String} {target : Nat} {suppression : Suppression} :
    parseDirective line comment.toList = some (target, suppression) ↔
      ∃ refs, Directs line comment target refs ∧ suppression = if refs = [] then .all else .rules refs := by
  unfold parseDirective
  constructor
  · intro parsed
    simp only at parsed
    split at parsed
    · rename_i rest stripped
      obtain ⟨found, refs, same⟩ := Option.map_eq_some_iff.mp parsed
      obtain ⟨rfl, rfl⟩ := Prod.mk.inj same
      obtain ⟨ends, is⟩ := parseRefs_eq.mp refs
      exact ⟨_, .nextLine (stripWord_eq_some.mp stripped) ends, is⟩
    · split at parsed
      · rename_i rest stripped
        obtain ⟨found, refs, same⟩ := Option.map_eq_some_iff.mp parsed
        obtain ⟨rfl, rfl⟩ := Prod.mk.inj same
        obtain ⟨ends, is⟩ := parseRefs_eq.mp refs
        exact ⟨_, .sameLine (stripWord_eq_some.mp stripped) ends, is⟩
      · cases parsed
  · rintro ⟨refs, directs, is⟩
    cases directs with
    | nextLine reads ends =>
      simp only [stripWord_eq_some.mpr reads, parseRefs_eq.mpr ⟨ends, is⟩, Option.map_some]
    | sameLine reads ends =>
      simp only [stripWord_eq_some.mpr reads]
      rw [reads, stripWord_sameLine]
      simp only [parseRefs_eq.mpr ⟨ends, is⟩, Option.map_some]

/-! ## Merged suppressions -/

namespace Suppression

theorem mem_foldl_addRef (refs more : List String) (ref : String) :
    ref ∈ more.foldl addRef refs ↔ ref ∈ refs ∨ ref ∈ more := by
  induction more generalizing refs with
  | nil => simp
  | cons first rest ih =>
    have added : ref ∈ addRef refs first ↔ ref ∈ refs ∨ ref = first := by
      unfold addRef
      split
      · rename_i present
        simp only [List.contains_iff_mem] at present
        exact ⟨Or.inl, fun either => either.elim id fun same => same ▸ present⟩
      · simp
    rw [List.foldl_cons, ih, added, List.mem_cons, or_assoc]

/-- Two suppressions merged switch off what either of them does. -/
theorem covers_merge (first second : Suppression) (ref : String) :
    (first.merge second).covers ref = (first.covers ref || second.covers ref) := by
  cases second with
  | all => simp [merge, covers]
  | rules more =>
    cases first with
    | all => simp [merge, covers]
    | rules refs => simp [merge, covers, mem_foldl_addRef]

/-- What a directive switches off, by the references that it lists. -/
theorem covers_listed (refs : List String) (ref : String) :
    (if refs = [] then Suppression.all else .rules refs).covers ref = true ↔ refs = [] ∨ ref ∈ refs := by
  split
  · simp [covers, *]
  · simp [covers, *]

end Suppression

theorem entryOf_suppressIn (target line : Nat) (suppression : Suppression) (entries : List (Nat × Suppression)) :
    entryOf line (suppressIn target suppression entries) =
      if target = line then some (((entryOf line entries).map (·.merge suppression)).getD suppression)
      else entryOf line entries := by
  induction entries with
  | nil => by_cases same : target = line <;> simp [suppressIn, entryOf, same]
  | cons entry rest ih =>
    obtain ⟨l, s⟩ := entry
    by_cases here : l = target
    · by_cases same : target = line
      · simp [suppressIn, entryOf, here, same]
      · simp [suppressIn, entryOf, here, same]
    · by_cases same : target = line
      · subst same
        simp [suppressIn, entryOf, here, ih]
      · simp only [suppressIn, entryOf, here, same, ih, beq_iff_eq, if_false]

namespace Directives

theorem isDisabled_empty (line : Nat) (ref : String) : isDisabled {} line ref = false := rfl

/-- A suppression switches off what it covers on its line, besides what was switched off before. -/
theorem isDisabled_suppress (d : Directives) (target line : Nat) (suppression : Suppression) (ref : String) :
    (d.suppress target suppression).isDisabled line ref =
      (d.isDisabled line ref || (decide (target = line) && suppression.covers ref)) := by
  unfold isDisabled suppress
  rw [entryOf_suppressIn]
  by_cases same : target = line
  · cases entryOf line d.entries with
    | none => simp [same]
    | some before => simp [same, Suppression.covers_merge]
  · simp [same]

/-- Directives after some more suppressions, each with its line, were added. -/
def after (d : Directives) (calls : List (Nat × Suppression)) : Directives :=
  calls.foldl (fun d call => d.suppress call.1 call.2) d

/-- The lines with an entry. -/
def lines (d : Directives) : List Nat := d.entries.map (·.1)

theorem size_eq (d : Directives) : d.size = d.lines.length := (List.length_map _).symm

/-- Comments add the suppressions of the directives among them. -/
theorem ofComments_eq_after (comments : List (Nat × String)) :
    ofComments comments = after {} (comments.filterMap fun comment => parseDirective comment.1 comment.2.toList) := by
  rw [after, List.foldl_filterMap, ofComments]
  congr 1
  funext d comment
  obtain ⟨line, text⟩ := comment
  dsimp only
  cases parseDirective line text.toList <;> rfl

theorem isDisabled_after (d : Directives) (calls : List (Nat × Suppression)) (line : Nat) (ref : String) :
    (d.after calls).isDisabled line ref = true ↔
      d.isDisabled line ref = true ∨ ∃ suppression, (line, suppression) ∈ calls ∧ suppression.covers ref = true := by
  induction calls generalizing d with
  | nil => simp [after]
  | cons call calls ih =>
    obtain ⟨target, suppression⟩ := call
    have step : (d.suppress target suppression).isDisabled line ref = true ↔
        d.isDisabled line ref = true ∨ line = target ∧ suppression.covers ref = true := by
      rw [isDisabled_suppress, Bool.or_eq_true, Bool.and_eq_true, decide_eq_true_iff, eq_comm (a := target)]
    have rest : after d ((target, suppression) :: calls) = (d.suppress target suppression).after calls := rfl
    rw [rest, ih, step, or_assoc]
    refine or_congr_right ⟨?_, ?_⟩
    · rintro (⟨rfl, covers⟩ | ⟨other, member, covers⟩)
      · exact ⟨suppression, .head _, covers⟩
      · exact ⟨other, .tail _ member, covers⟩
    · rintro ⟨other, member, covers⟩
      rcases List.mem_cons.mp member with same | later
      · obtain ⟨rfl, rfl⟩ := Prod.mk.inj same
        exact .inl ⟨rfl, covers⟩
      · exact .inr ⟨other, later, covers⟩

/-- Directives switch off what some comment among them switches off. -/
theorem isDisabled_ofComments (comments : List (Nat × String)) (line : Nat) (ref : String) :
    (ofComments comments).isDisabled line ref = true ↔ SwitchesOff comments line ref := by
  rw [ofComments_eq_after, isDisabled_after, isDisabled_empty]
  simp only [Bool.false_eq_true, false_or, List.mem_filterMap, parseDirective_eq_some, SwitchesOff]
  constructor
  · rintro ⟨-, ⟨comment, member, refs, directs, rfl⟩, covers⟩
    exact ⟨comment, member, refs, directs, (Suppression.covers_listed refs ref).mp covers⟩
  · rintro ⟨comment, member, refs, directs, lists⟩
    exact ⟨_, ⟨comment, member, refs, directs, rfl⟩, (Suppression.covers_listed refs ref).mpr lists⟩

theorem lines_suppressIn (line : Nat) (suppression : Suppression) (entries : List (Nat × Suppression)) :
    (suppressIn line suppression entries).map (·.1) =
      if line ∈ entries.map (·.1) then entries.map (·.1) else entries.map (·.1) ++ [line] := by
  induction entries with
  | nil => rfl
  | cons entry rest ih =>
    obtain ⟨other, before⟩ := entry
    rw [suppressIn]
    by_cases same : other = line
    · rw [if_pos (by simpa using same), if_pos (by simp [same])]
      rfl
    · rw [if_neg (by simpa using same), List.map_cons, ih]
      by_cases present : line ∈ rest.map (·.1)
      · rw [if_pos present, if_pos (.tail _ present), List.map_cons]
      · rw [if_neg present, if_neg (by simpa [Ne.symm same] using present), List.map_cons, List.cons_append]

/-- A suppression of a line that has an entry adds no line, any other adds its own. -/
theorem lines_suppress (d : Directives) (line : Nat) (suppression : Suppression) :
    (d.suppress line suppression).lines = if line ∈ d.lines then d.lines else d.lines ++ [line] :=
  lines_suppressIn line suppression d.entries

theorem mem_lines_after (d : Directives) (calls : List (Nat × Suppression)) (line : Nat) :
    line ∈ (d.after calls).lines ↔ line ∈ d.lines ∨ ∃ suppression, (line, suppression) ∈ calls := by
  induction calls generalizing d with
  | nil => simp [after]
  | cons call calls ih =>
    have step : line ∈ (d.suppress call.1 call.2).lines ↔ line ∈ d.lines ∨ line = call.1 := by
      rw [lines_suppress]
      split
      · next present =>
        exact ⟨.inl, fun either => either.elim id fun same => same ▸ present⟩
      · simp
    have rest : d.after (call :: calls) = (d.suppress call.1 call.2).after calls := rfl
    rw [rest, ih, step, or_assoc]
    simp [Prod.ext_iff, exists_or]

theorem nodup_lines_after {d : Directives} (once : d.lines.Nodup) (calls : List (Nat × Suppression)) :
    (d.after calls).lines.Nodup := by
  induction calls generalizing d with
  | nil => exact once
  | cons call calls ih =>
    refine ih ?_
    rw [lines_suppress]
    split
    · exact once
    · next absent => exact List.concat_eq_append ▸ once.concat absent

theorem mem_lines_ofComments (comments : List (Nat × String)) (line : Nat) :
    line ∈ (ofComments comments).lines ↔ ∃ comment ∈ comments, ∃ refs, Directs comment.1 comment.2 line refs := by
  rw [ofComments_eq_after, mem_lines_after]
  simp only [lines, List.map_nil, List.not_mem_nil, false_or, List.mem_filterMap, parseDirective_eq_some]
  constructor
  · rintro ⟨suppression, comment, member, refs, directs, -⟩
    exact ⟨comment, member, refs, directs⟩
  · rintro ⟨comment, member, refs, directs⟩
    exact ⟨_, comment, member, refs, directs, rfl⟩

theorem nodup_lines_ofComments (comments : List (Nat × String)) : (ofComments comments).lines.Nodup := by
  rw [ofComments_eq_after]
  exact @nodup_lines_after {} List.nodup_nil _

/-- Directives of the same comments, in any order and however often repeated, cannot be told apart. -/
theorem alike_ofComments {comments listing : List (Nat × String)}
    (same : ∀ comment, comment ∈ listing ↔ comment ∈ comments) : (ofComments listing).Alike (ofComments comments) where
  isDisabled := by
    intro line ref
    rw [Bool.eq_iff_iff, isDisabled_ofComments, isDisabled_ofComments]
    simp only [SwitchesOff, same]
  size := by
    have perm : (ofComments listing).lines.Perm (ofComments comments).lines := by
      refine (List.perm_ext_iff_of_nodup (nodup_lines_ofComments _) (nodup_lines_ofComments _)).mpr fun line => ?_
      simp only [mem_lines_ofComments, same]
    rw [size_eq, size_eq, perm.length_eq]

end Directives

/-! ## Analyses -/

/-- The line comments of a script, each with its line. -/
def lineComments (filename source : String) : List (Nat × String) :=
  let text := Script.withoutMark source.toList
  let comments := ((Syntax.parse? (Dialect.ofFilename filename).features text).map (·.comments)).getD []
  comments.map fun c => ((Source.displayPosition text c.offset).line, c.text)

theorem read?_directives {filename source : String} {script : Script}
    (read : Script.read? filename source = some script) : script.directives = .ofComments (lineComments filename source) := by
  obtain ⟨outcome, parsed, rfl⟩ := Option.map_eq_some_iff.mp read
  rw [lineComments, parsed]
  rfl

/-- Some comment switches a diagnostic off: by the id of its rule or, if a rule is registered under that id, by the name
of that rule. -/
def Suppressed (registry : Registry) (comments : List (Nat × String)) (d : Diagnostic) : Prop :=
  ∃ comment ∈ comments, ∃ refs, Directs comment.1 comment.2 d.line refs ∧
    (refs = [] ∨ d.ruleId ∈ refs ∨ ∃ rule, registry.get? d.ruleId = some rule ∧ rule.metadata.name ∈ refs)

theorem isSuppressed_iff (registry : Registry) {script : Script} {comments : List (Nat × String)}
    (directives : script.directives = .ofComments comments) (d : Diagnostic) :
    Analysis.isSuppressed registry script d = true ↔ Suppressed registry comments d := by
  unfold Analysis.isSuppressed Suppressed
  rw [Bool.or_eq_true, directives, Directives.isDisabled_ofComments]
  cases found : registry.get? d.ruleId with
  | none => simp [SwitchesOff]
  | some rule =>
    simp only [Directives.isDisabled_ofComments, SwitchesOff, Option.some.injEq, exists_eq_left']
    constructor
    · rintro (⟨comment, member, refs, directs, lists⟩ | ⟨comment, member, refs, directs, lists⟩)
      · exact ⟨comment, member, refs, directs, lists.imp_right .inl⟩
      · exact ⟨comment, member, refs, directs, lists.imp_right .inr⟩
    · rintro ⟨comment, member, refs, directs, none | byId | byName⟩
      · exact .inl ⟨comment, member, refs, directs, .inl none⟩
      · exact .inl ⟨comment, member, refs, directs, .inr byId⟩
      · exact .inr ⟨comment, member, refs, directs, .inr byName⟩

/-- Rules find the same under directives that cannot be told apart. -/
theorem run?_alike (registry : Registry) {script : Script} {directives : Directives}
    (alike : directives.Alike script.directives) :
    registry.run? { script with directives } = registry.run? script := by
  have each : ∀ entry : Registered, entry.run? { script with directives } = entry.run? script := by
    intro entry
    rw [Registered.run?, Registered.run?, entry.rule.check?_alike script directives alike]
  simp only [Registry.run?, each]

/-- The analysis of a script that was read reports its errors, in order, and then what the rules find, less just what a
line comment of the script switches off. The comments may be listed in any order and repeated. -/
theorem analysis_leaves_out_suppressed (registry : Registry) {filename source : String} {script : Script}
    (read : Script.read? filename source = some script) (listing : List (Nat × String))
    (same : ∀ comment, comment ∈ listing ↔ comment ∈ lineComments filename source) :
    Analysis.run? registry script = (registry.run? script).map (fun found =>
        (script.errors.map (Analysis.ofError script) ++ found).filter
          fun d => ¬ Suppressed registry (lineComments filename source) d) ∧
      Analysis.run? registry { script with directives := .ofComments listing } = Analysis.run? registry script := by
  have directives := read?_directives read
  refine ⟨?_, ?_⟩
  · unfold Analysis.run?
    congr 1
    funext found
    refine List.filter_congr fun d _ => ?_
    rw [Bool.eq_iff_iff, Bool.not_eq_true', ← Bool.not_eq_true, isSuppressed_iff registry directives,
      decide_eq_true_iff]
  · have alike : (Directives.ofComments listing).Alike script.directives :=
      directives ▸ Directives.alike_ofComments same
    have suppressed : ∀ d, Analysis.isSuppressed registry { script with directives := .ofComments listing } d =
        Analysis.isSuppressed registry script d := by
      intro d
      simp only [Analysis.isSuppressed, alike.isDisabled]
    unfold Analysis.run?
    rw [run?_alike registry alike]
    simp only [suppressed]
    rfl

/-- Two errors, of which a directive switches the second off. -/
def mixedDirectives : String := "break//namelint-disable-line A\nbreak//namelint-disable-line"

/-- Its comments in another order, one of them twice. -/
def mixedListing : List (Nat × String) :=
  [(2, "namelint-disable-line"), (1, "namelint-disable-line A"), (2, "namelint-disable-line")]

theorem mixedDirectives_suppressed :
    ∃ script, Script.read? "a.js" mixedDirectives = some script ∧ script.errors.map (·.line) = [1, 2] ∧
      Analysis.run? Registry.builtin script = (Registry.builtin.run? script).map (fun found =>
        (script.errors.map (Analysis.ofError script) ++ found).filter
          fun d => ¬ Suppressed Registry.builtin (lineComments "a.js" mixedDirectives) d) ∧
      (Analysis.run? Registry.builtin { script with directives := .ofComments mixedListing }).map (·.map (·.line)) =
        some [1] := by
  have comments : lineComments "a.js" mixedDirectives =
      [(1, "namelint-disable-line A"), (2, "namelint-disable-line")] := by decide +kernel
  have lines : (Script.read? "a.js" mixedDirectives).map (fun script => (script.errors.map (·.line),
      (Analysis.run? Registry.builtin script).map (·.map (·.line)))) = some ([1, 2], some [1]) := by decide +kernel
  obtain ⟨script, read, found⟩ := Option.map_eq_some_iff.mp lines
  obtain ⟨errors, left⟩ := Prod.mk.inj found
  have same : ∀ comment, comment ∈ mixedListing ↔ comment ∈ lineComments "a.js" mixedDirectives := by
    intro comment
    rw [comments]
    simp only [mixedListing, List.mem_cons, List.not_mem_nil, or_false]
    exact ⟨fun | .inl second => .inr second | .inr either => either, .inr⟩
  obtain ⟨filtered, relisted⟩ := analysis_leaves_out_suppressed Registry.builtin read mixedListing same
  refine ⟨script, read, errors, filtered, ?_⟩
  rw [relisted]
  exact left

end NameCheck
