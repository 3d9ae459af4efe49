import NameCheck.Proofs.Configuration
import NameCheck.Proofs.Lines

/-!
What a byte-order mark before a source does to what is reported about it. The mark is no part of the text that is read,
so the rules find the same, but positions are looked up in the source with the mark: three bytes early
(`violationLine?_marked`). The reports stay the same just if no end of a violation is moved to another line or inside a
character (`violationLine?_unmoved`).
-/
namespace NameCheck

open Text (byteLength takeBytes?)

/-- A source with a byte-order mark before it. -/
def marked (source : String) : String := String.ofList (Char.ofNat 0xfeff :: source.toList)

theorem toList_marked (source : String) : (marked source).toList = Char.ofNat 0xfeff :: source.toList :=
  String.toList_ofList

/-- The mark is not read. -/
theorem read?_marked (filename : String) {source : String}
    (unmarked : source.toList.head? ≠ some (Char.ofNat 0xfeff)) :
    Script.read? filename (marked source) =
      (Script.read? filename source).map fun script => { script with source := marked source } := by
  have skipped : Script.withoutMark (marked source).toList = source.toList := by
    rw [toList_marked]
    rfl
  have whole := withoutMark_unmarked unmarked
  simp only [Script.read?, skipped, whole, Option.map_map]
  rfl

/-! ## Moved offsets -/

/-- An offset of a text has a line just if a character ends there. -/
theorem violationLine?_eq_none {source : String} {offset : Nat} (inside : offset ≤ byteLength source.toList) :
    violationLine? source offset = none ↔ ¬ IsEdge source.toList offset := by
  constructor
  · rintro lost ⟨before, after, splits, rfl⟩
    rw [violationLine?_append splits] at lost
    cases lost
  · intro cut
    rw [violationLine?, Source.position?, Nat.min_eq_left inside, Option.map_map, Option.map_eq_none_iff]
    refine Option.eq_none_iff_forall_ne_some.mpr fun before taken => cut ?_
    obtain ⟨⟨after, splits⟩, is⟩ := takeBytes?_eq_some taken
    exact ⟨before, after, splits, is.symm⟩

/-- With a mark before the source, a line is looked up three bytes early. The start has a line, and an offset inside the
mark has none. -/
theorem violationLine?_marked (source : String) (offset : Nat) :
    violationLine? (marked source) offset =
      if 0 < offset ∧ offset < 3 then none else violationLine? source (offset - 3) := by
  have size : byteLength (marked source).toList = byteLength source.toList + 3 := by
    rw [toList_marked, byteLength]
    exact Nat.add_comm 3 _
  have first : (Char.ofNat 0xfeff).utf8Size = 3 := rfl
  rw [violationLine?, Source.position?, size, toList_marked]
  split
  · next inside =>
    obtain ⟨bytes, rfl⟩ : ∃ bytes, offset = bytes + 1 := ⟨offset - 1, by omega⟩
    rw [Nat.min_eq_left (by omega), takeBytes?, if_neg (by omega)]
    rfl
  · next outside =>
    rcases Nat.eq_zero_or_pos offset with rfl | positive
    · rw [violationLine?, Source.position?, Nat.zero_min, Nat.zero_sub, Nat.zero_min]
      cases source.toList <;> rfl
    · obtain ⟨bytes, rfl⟩ : ∃ bytes, offset = bytes + 3 := ⟨offset - 3, by omega⟩
      have least : min (bytes + 3) (byteLength source.toList + 3) = min bytes (byteLength source.toList) + 2 + 1 := by
        omega
      have rest : min bytes (byteLength source.toList) + 2 + 1 - 3 = min bytes (byteLength source.toList) := by omega
      rw [least, takeBytes?, if_pos (by omega), first, rest, violationLine?, Source.position?, Nat.add_sub_cancel]
      simp only [Option.map_map]
      rfl

/-- A mark moves an offset inside a character: one of the mark, or one of the text. -/
def MovedInside (text : List Char) (offset : Nat) : Prop :=
  0 < offset ∧ offset < 3 ∨ 3 ≤ offset ∧ ¬ IsEdge text (offset - 3)

/-- A mark moves an offset to no other line: it is that of the start, or the three bytes before it are characters other
than a line feed. -/
def Unmoved (text : List Char) (offset : Nat) : Prop :=
  offset = 0 ∨ ∃ before between after, text = before ++ between ++ after ∧ byteLength (before ++ between) = offset ∧
    byteLength between = 3 ∧ '\n' ∉ between

variable {source : String} {offset : Nat}

theorem violationLine?_movedInside (edge : IsEdge source.toList offset) :
    violationLine? (marked source) offset = none ↔ MovedInside source.toList offset := by
  have length := edge.le
  rw [violationLine?_marked, MovedInside]
  by_cases inside : 0 < offset ∧ offset < 3
  · simp [inside]
  · rw [if_neg inside, violationLine?_eq_none (by omega)]
    rcases Nat.eq_zero_or_pos offset with rfl | positive
    · simp [edge]
    · simp [inside, show 3 ≤ offset by omega]

/-- The line of an offset is the same with a mark just if the mark does not move the offset to another line. -/
theorem violationLine?_unmoved (edge : IsEdge source.toList offset) :
    violationLine? (marked source) offset = violationLine? source offset ↔ Unmoved source.toList offset := by
  have length := edge.le
  obtain ⟨pre, post, splits, rfl⟩ := edge
  rw [violationLine?_marked, violationLine?_append splits]
  constructor
  · intro same
    rcases Nat.eq_zero_or_pos (byteLength pre) with start | positive
    · exact .inl start
    split at same
    · cases same
    · next outside =>
      obtain ⟨before, after, splits', is⟩ : IsEdge source.toList (byteLength pre - 3) := by
        by_contra cut
        rw [(violationLine?_eq_none (by omega)).mpr cut] at same
        cases same
      obtain ⟨between, rfl⟩ := splits_between (splits'.symm.trans splits) (by omega)
      rw [is, violationLine?_append splits', List.count_append, Option.some.injEq] at same
      rw [byteLength_append] at is outside positive
      exact .inr ⟨before, between, post, splits, rfl, by omega, List.count_eq_zero.mp (by omega)⟩
  · rintro (start | ⟨before, between, after, splits', total, three, feeds⟩)
    · obtain rfl := byteLength_eq_zero start
      exact violationLine?_append splits
    · obtain ⟨rest, rfl⟩ := splits_between (splits'.symm.trans splits) (by omega)
      obtain rfl : rest = [] := by
        rw [byteLength_append _ rest] at total
        exact byteLength_eq_zero (by omega)
      have earlier : byteLength (before ++ between ++ []) - 3 = byteLength before := by
        rw [List.append_nil, byteLength_append]
        omega
      have outside : ¬ (0 < byteLength (before ++ between ++ []) ∧ byteLength (before ++ between ++ []) < 3) := by
        rw [List.append_nil, byteLength_append]
        omega
      rw [List.append_assoc] at splits'
      rw [if_neg outside, earlier, violationLine?_append splits', List.append_nil, List.count_append,
        List.count_eq_zero.mpr feeds, Nat.add_zero]

/-! ## Reports -/

/-- What the rules find in a script: each violation with its rule, in order. -/
def Script.findings (script : Script) : List (ModuleRule × Violation) :=
  script.module.toList.flatMap fun module => builtinRules.flatMap fun rule =>
    (rule.violations module).map fun violation => (rule, violation)

/-- What a report says apart from columns: the rule, the message and the lines. -/
structure Outline where
  ruleId : String
  message : String
  line : Nat
  lastLine : Nat
deriving DecidableEq, Repr

def Diagnostic.outline (d : Diagnostic) : Outline := ⟨d.ruleId, d.message, d.range.start.line, d.range.stop.line⟩

/-- The outlines of what the rules report about a script; none if the run breaks off. -/
def outlines? (script : Script) : Option (List Outline) := (Registry.builtin.run? script).map (·.map Diagnostic.outline)

/-- The outline of a finding whose lines are looked up in a source. -/
def outlineOf? (source : String) (finding : ModuleRule × Violation) : Option Outline := do
  let start ← violationLine? source finding.2.span.lo
  let stop ← violationLine? source finding.2.span.hi
  return ⟨finding.1.metadata.id, finding.2.message, start, stop⟩

theorem outline_locate? (rule : ModuleRule) (script : Script) (violation : Violation) :
    (rule.locate? script violation).map Diagnostic.outline = outlineOf? script.source (rule, violation) := by
  rw [ModuleRule.locate?, Script.range?, Source.range?, outlineOf?, violationLine?, violationLine?]
  cases Source.position? script.source.toList violation.span.lo with
  | none => rfl
  | some start => cases Source.position? script.source.toList violation.span.hi <;> rfl

/-- The rules report the outline of each finding, or break off if one has none. -/
theorem outlines?_eq (script : Script) : outlines? script = script.findings.mapM (outlineOf? script.source) := by
  rw [outlines?, run?_builtin, Script.findings]
  cases has : script.module with
  | none =>
    have nothing : ∀ rule : ModuleRule, rule.check? script = some [] := fun rule => by rw [ModuleRule.check?, has]
    simp only [nothing]
    rfl
  | some module =>
    have checks : ∀ rule : ModuleRule, rule.check? script = (rule.violations module).mapM (rule.locate? script) :=
      fun rule => by rw [ModuleRule.check?, has]
    simp only [checks, mapM_parts, map_mapM, outline_locate?, Option.toList_some, List.flatMap_singleton]

/-! ## Findings -/

/-- A finding with its ends counted three bytes early. -/
def movedBack (finding : ModuleRule × Violation) : ModuleRule × Violation :=
  (finding.1, { finding.2 with span := finding.2.span.map (· - 3) })

theorem findings_edges {filename : String} {script : Script} (read : Script.read? filename source = some script)
    (whole : Script.withoutMark source.toList = source.toList) {finding : ModuleRule × Violation}
    (found : finding ∈ script.findings) :
    IsEdge source.toList finding.2.span.lo ∧ IsEdge source.toList finding.2.span.hi := by
  simp only [Script.findings, List.mem_flatMap, Option.mem_toList, List.mem_map] at found
  obtain ⟨module, has, rule, builtin, violation, member, rfl⟩ := found
  obtain ⟨span, is⟩ := span_violation_read read has builtin member
  rw [is, whole]
  exact ⟨byteOffsets_edge source.toList span.lo, byteOffsets_edge source.toList span.hi⟩

theorem violationLine?_edge (edge : IsEdge source.toList offset) :
    ∃ line, violationLine? source offset = some line := by
  obtain ⟨before, after, splits, rfl⟩ := edge
  exact ⟨_, violationLine?_append splits⟩

section

variable {finding : ModuleRule × Violation} (start : IsEdge source.toList finding.2.span.lo)
  (stop : IsEdge source.toList finding.2.span.hi)

theorem outlineOf?_eq_none {source : String} : outlineOf? source finding = none ↔
    violationLine? source finding.2.span.lo = none ∨ violationLine? source finding.2.span.hi = none := by
  rw [outlineOf?]
  cases violationLine? source finding.2.span.lo with
  | none => simp
  | some line => cases violationLine? source finding.2.span.hi <;> simp

include start stop

theorem outlineOf?_edges : ∃ outline, outlineOf? source finding = some outline := by
  obtain ⟨first, starts⟩ := violationLine?_edge start
  obtain ⟨last, stops⟩ := violationLine?_edge stop
  exact ⟨_, by rw [outlineOf?, starts, stops]; rfl⟩

theorem outlineOf?_movedInside : outlineOf? (marked source) finding = none ↔
    MovedInside source.toList finding.2.span.lo ∨ MovedInside source.toList finding.2.span.hi := by
  rw [outlineOf?_eq_none, violationLine?_movedInside start, violationLine?_movedInside stop]

theorem outlineOf?_unmoved : outlineOf? (marked source) finding = outlineOf? source finding ↔
    Unmoved source.toList finding.2.span.lo ∧ Unmoved source.toList finding.2.span.hi := by
  rw [← violationLine?_unmoved start, ← violationLine?_unmoved stop]
  obtain ⟨first, starts⟩ := violationLine?_edge start
  obtain ⟨last, stops⟩ := violationLine?_edge stop
  rw [outlineOf?, outlineOf?, starts, stops]
  cases violationLine? (marked source) finding.2.span.lo with
  | none => simp
  | some line => cases violationLine? (marked source) finding.2.span.hi <;> simp

end

/-- A finding that has an outline with a mark has that of the finding three bytes early. -/
theorem outlineOf?_movedBack {finding : ModuleRule × Violation} (answers : outlineOf? (marked source) finding ≠ none) :
    outlineOf? (marked source) finding = outlineOf? source (movedBack finding) := by
  have lines : ∀ offset, violationLine? (marked source) offset ≠ none →
      violationLine? (marked source) offset = violationLine? source (offset - 3) := by
    intro offset found
    rw [violationLine?_marked] at found ⊢
    split at found
    · exact absurd rfl found
    · next outside => exact if_neg outside
  rw [ne_eq, outlineOf?_eq_none, not_or] at answers
  rw [outlineOf?, lines _ answers.1, lines _ answers.2]
  rfl

/-- With a byte-order mark before it, a source is read as without. The rules break off just if the mark moves an end of
a finding inside a character, and otherwise report the lines of three bytes before. So they report the rules, messages
and lines that they report without the mark just if it moves no end of a finding to another line. -/
theorem mark_keeps_reports_iff (filename source : String) (unmarked : source.toList.head? ≠ some (Char.ofNat 0xfeff)) :
    Script.read? filename (marked source) =
        (Script.read? filename source).map (fun script => { script with source := marked source }) ∧
      ∀ script, Script.read? filename source = some script →
        outlines? script ≠ none ∧
        (outlines? { script with source := marked source } = none ↔ ∃ finding ∈ script.findings,
          MovedInside source.toList finding.2.span.lo ∨ MovedInside source.toList finding.2.span.hi) ∧
        (outlines? { script with source := marked source } ≠ none → outlines? { script with source := marked source } =
          script.findings.mapM fun finding => outlineOf? source (movedBack finding)) ∧
        (outlines? { script with source := marked source } = outlines? script ↔ ∀ finding ∈ script.findings,
          Unmoved source.toList finding.2.span.lo ∧ Unmoved source.toList finding.2.span.hi) := by
  refine ⟨read?_marked filename unmarked, fun script read => ?_⟩
  have edges : ∀ finding ∈ script.findings,
      IsEdge source.toList finding.2.span.lo ∧ IsEdge source.toList finding.2.span.hi :=
    fun finding => findings_edges read (withoutMark_unmarked unmarked)
  have answered : ∀ finding ∈ script.findings, ∃ outline, outlineOf? source finding = some outline :=
    fun finding member => outlineOf?_edges (edges finding member).1 (edges finding member).2
  have plain : outlines? script = script.findings.mapM (outlineOf? source) := by
    rw [outlines?_eq, read?_source read]
  have moved : outlines? { script with source := marked source } =
    script.findings.mapM (outlineOf? (marked source)) := outlines?_eq _
  rw [plain, moved, mapM_eq_none_iff, mapM_eq_iff answered]
  refine ⟨?_, ?_, ?_, ?_⟩
  · obtain ⟨reports, all⟩ := mapM_answered answered
    rw [all]
    exact Option.some_ne_none reports
  · exact exists_congr fun finding => and_congr_right fun member =>
      outlineOf?_movedInside (edges finding member).1 (edges finding member).2
  · intro runs
    have same : ∀ finding ∈ script.findings,
        outlineOf? (marked source) finding = outlineOf? source (movedBack finding) :=
      fun finding member => outlineOf?_movedBack fun lost => runs (mapM_eq_none_iff.mpr ⟨finding, member, lost⟩)
    refine (mapM_eq_iff fun finding member => Option.ne_none_iff_exists'.mp ?_).mpr same
    rw [← same finding member]
    exact fun lost => runs (mapM_eq_none_iff.mpr ⟨finding, member, lost⟩)
  · exact forall₂_congr fun finding member => outlineOf?_unmoved (edges finding member).1 (edges finding member).2

/-- A call of a hook that stands far behind a character of two bytes. -/
def distantCall : String := "é = 0; useX()"

theorem distantCall_unmoved : ∃ script, Script.read? "a.js" distantCall = some script ∧
    Script.read? "a.js" (marked distantCall) = some { script with source := marked distantCall } ∧
    outlines? { script with source := marked distantCall } = some [⟨"H001", "Use named function", 1, 1⟩] := by
  have found : (Script.read? "a.js" distantCall).map (fun script =>
      (script.findings.map fun finding => finding.2.span, outlines? script)) =
      some ([⟨8, 14⟩], some [⟨"H001", "Use named function", 1, 1⟩]) := by decide +kernel
  obtain ⟨script, read, outcome⟩ := Option.map_eq_some_iff.mp found
  obtain ⟨spans, reports⟩ := Prod.mk.inj outcome
  obtain ⟨same, rest⟩ := mark_keeps_reports_iff "a.js" distantCall (by decide)
  obtain ⟨-, -, -, agree⟩ := rest script read
  refine ⟨script, read, by rw [same, read, Option.map_some], ?_⟩
  rw [← reports]
  refine agree.mpr fun finding member => ?_
  have is : finding.2.span = ⟨8, 14⟩ := by
    have inside := List.mem_map_of_mem (f := fun finding : ModuleRule × Violation => finding.2.span) member
    rw [spans] at inside
    exact List.mem_singleton.mp inside
  rw [is]
  refine ⟨.inr ⟨"é = ".toList, "0; ".toList, "useX()".toList, ?_⟩, .inr ⟨"é = 0; use".toList, "X()".toList, [], ?_⟩⟩
  · decide
  · decide

/-- A mark makes the run for one source break off and moves what is found in another one to the first line. -/
theorem mark_changes_reports :
    (Script.read? "a.js" " useX()").bind outlines? = some [⟨"H001", "Use named function", 1, 1⟩] ∧
      (Script.read? "a.js" (marked " useX()")).bind outlines? = none ∧
      (Script.read? "a.js" "\n\n\nuseX()").bind outlines? = some [⟨"H001", "Use named function", 4, 4⟩] ∧
      (Script.read? "a.js" (marked "\n\n\nuseX()")).bind outlines? = some [⟨"H001", "Use named function", 1, 4⟩] := by
  decide +kernel

end NameCheck
