import Mathlib.Algebra.Ring.Nat
import Mathlib.Data.Finset.Card
import Mathlib.Data.List.Induction
import NameCheck.Proofs.Entries
import NameCheck.Report.Pretty
import NameCheck.Report.Summary

/-!
The counts of reports. Adding to a table changes what is found under one key (`lookup_add`), so a table that is filled
key by key says how often each key came up (`Tabulates`) and does not depend on their order (`Tabulates.unique`). The
tables, the files and the tally are counted by one pass each over the diagnostics; the invariant `Counted` relates all of
them to the diagnostics that were read so far.
-/
namespace NameCheck.Report

/-! ## Tables of counts -/

def Table.keys (table : Table) : List String := table.map Prod.fst

def Table.sum (table : Table) : Nat := (table.map Prod.snd).sum

variable {table : Table} {key one : String} {n : Nat}

theorem mem_keys_add : key ∈ Table.keys (table.add one n) ↔ key = one ∨ key ∈ Table.keys table := by
  induction table with
  | nil => simp [Table.add, Table.keys]
  | cons entry rest ih =>
    obtain ⟨other, m⟩ := entry
    rw [Table.add]
    split_ifs with same less
    · simp [Table.keys, same]
    · simp [Table.keys]
    · simp only [Table.keys, List.map_cons, List.mem_cons] at ih ⊢
      rw [ih]
      exact or_left_comm

theorem sorted_add (sorted : (Table.keys table).Pairwise (· < ·)) :
    (Table.keys (table.add one n)).Pairwise (· < ·) := by
  induction table with
  | nil => exact List.pairwise_singleton _ _
  | cons entry rest ih =>
    obtain ⟨other, m⟩ := entry
    obtain ⟨before, later⟩ := List.pairwise_cons.mp sorted
    rw [Table.add]
    split_ifs with same less
    · exact sorted
    · refine List.pairwise_cons.mpr ⟨fun key member => ?_, sorted⟩
      rcases List.mem_cons.mp member with rfl | deeper
      · exact less
      · exact String.lt_trans less (before key deeper)
    · refine List.pairwise_cons.mpr ⟨fun key member => ?_, ih later⟩
      rcases mem_keys_add.mp member with rfl | deeper
      · by_contra more
        exact same (String.le_antisymm (String.not_lt.mp more) (String.not_lt.mp less))
      · exact before key deeper

theorem sum_add : Table.sum (table.add one n) = Table.sum table + n := by
  induction table with
  | nil => simp [Table.add, Table.sum]
  | cons entry rest ih =>
    obtain ⟨other, m⟩ := entry
    rw [Table.add]
    simp only [Table.sum, List.map_cons, List.sum_cons] at ih ⊢
    split_ifs
    · simp only [List.map_cons, List.sum_cons]
      omega
    · simp only [List.map_cons, List.sum_cons]
      omega
    · simp only [List.map_cons, List.sum_cons, ih]
      omega

/-- Adding changes what is found under the key that is added to and nothing else. -/
theorem lookup_add (sorted : (Table.keys table).Pairwise (· < ·)) :
    (table.add one n).lookup key = if key = one then some ((table.lookup one).getD 0 + n) else table.lookup key := by
  induction table with
  | nil =>
    by_cases asked : key = one
    · simp [Table.add, asked]
    · simp [Table.add, asked, lookup_cons_of_ne asked]
  | cons entry rest ih =>
    obtain ⟨other, m⟩ := entry
    obtain ⟨before, later⟩ := List.pairwise_cons.mp sorted
    rw [Table.add]
    by_cases same : one = other
    · subst same
      rw [if_pos rfl]
      by_cases asked : key = one
      · simp [asked]
      · rw [lookup_cons_of_ne asked, lookup_cons_of_ne asked, if_neg asked]
    · rw [if_neg same]
      by_cases less : one < other
      · have absent : List.lookup one ((other, m) :: rest) = none := by
          refine lookup_eq_none_iff.mpr fun listed => String.lt_irrefl one ?_
          rcases List.mem_cons.mp listed with equal | deeper
          · exact absurd equal same
          · exact String.lt_trans less (before one deeper)
        rw [if_pos less, absent]
        by_cases asked : key = one
        · simp [asked]
        · rw [lookup_cons_of_ne asked, if_neg asked]
      · rw [if_neg less, lookup_cons_of_ne same]
        by_cases first : key = other
        · simp [first, Ne.symm same]
        · rw [lookup_cons_of_ne first, lookup_cons_of_ne first, ih later]

/-- A table that lists some keys from the start and in which others were counted one after the other. -/
structure Tabulates (listed counted : List String) (table : Table) : Prop where
  sorted : (Table.keys table).Pairwise (· < ·)
  sum : Table.sum table = counted.length
  found : ∀ key, table.lookup key = if key ∈ listed ∨ key ∈ counted then some (counted.count key) else none

namespace Tabulates

variable {listed counted : List String}

theorem empty : Tabulates [] [] [] := ⟨List.Pairwise.nil, rfl, fun key => by simp⟩

theorem list (tabulates : Tabulates listed counted table) (new : one ∉ counted) :
    Tabulates (listed ++ [one]) counted (table.add one 0) where
  sorted := sorted_add tabulates.sorted
  sum := by rw [sum_add, tabulates.sum, Nat.add_zero]
  found := by
    intro key
    rw [lookup_add tabulates.sorted, tabulates.found, tabulates.found]
    by_cases asked : key = one
    · subst asked
      by_cases before : key ∈ listed <;> simp [new, before, List.count_eq_zero_of_not_mem new]
    · simp [asked]

theorem count (tabulates : Tabulates listed counted table) :
    Tabulates listed (counted ++ [one]) (table.add one 1) where
  sorted := sorted_add tabulates.sorted
  sum := by rw [sum_add, tabulates.sum, List.length_append, List.length_singleton]
  found := by
    intro key
    rw [lookup_add tabulates.sorted, tabulates.found, tabulates.found]
    by_cases asked : key = one
    · subst asked
      by_cases before : key ∈ listed ∨ key ∈ counted
      · simp [before, List.count_append]
      · have fresh : counted.count key = 0 := List.count_eq_zero_of_not_mem fun member => before (.inr member)
        simp [before, fresh, List.count_append]
    · have other : [one].count key = 0 := List.count_eq_zero_of_not_mem (by simpa using asked)
      simp [asked, List.count_append, other]

theorem nodup (tabulates : Tabulates listed counted table) : (Table.keys table).Nodup := by
  refine tabulates.sorted.imp ?_
  rintro key other less rfl
  exact String.lt_irrefl key less

theorem mem_iff (tabulates : Tabulates listed counted table) :
    (key, n) ∈ table ↔ (key ∈ listed ∨ key ∈ counted) ∧ counted.count key = n := by
  have found : (key, n) ∈ table ↔ table.lookup key = some n :=
    ⟨lookup_of_mem tabulates.nodup, mem_of_lookup⟩
  rw [found, tabulates.found, Option.ite_none_right_eq_some, Option.some.injEq]

theorem mem_keys_iff (tabulates : Tabulates listed counted table) :
    key ∈ Table.keys table ↔ key ∈ listed ∨ key ∈ counted := by
  rw [← not_iff_not, Table.keys, ← lookup_eq_none_iff, tabulates.found]
  simp

/-- What a table lists and counts determines the table, whatever the order in which it was counted. -/
theorem unique {others : List String} {other : Table} (tabulates : Tabulates listed counted table)
    (same : Tabulates listed others other) (perm : counted.Perm others) : table = other := by
  have entries : ∀ entry, entry ∈ table ↔ entry ∈ other := by
    rintro ⟨key, n⟩
    rw [tabulates.mem_iff, same.mem_iff, perm.mem_iff, perm.count_eq]
  have rows : table.Perm other :=
    (List.perm_ext_iff_of_nodup tabulates.nodup.of_map same.nodup.of_map).mpr entries
  refine rows.eq_of_pairwise ?_ (List.pairwise_map.mp tabulates.sorted) (List.pairwise_map.mp same.sorted)
  intro first second _ _ less more
  exact absurd (String.lt_trans less more) (String.lt_irrefl _)

end Tabulates

/-! ## One pass over diagnostics -/

/-- Counters and a tally that have read some diagnostics. -/
structure Counted (diagnostics : List Diagnostic) (c : Counters) (tally : Tally) : Prop where
  severities : Tabulates (Severity.all.map Severity.name) (diagnostics.map (·.severity.name)) c.bySeverity
  rules : Tabulates [] (diagnostics.map (·.ruleId)) c.byRule
  filesOnce : c.files.Nodup
  files : ∀ file, file ∈ c.files ↔ file ∈ diagnostics.map (·.file)
  errors : tally.errors = diagnostics.countP (·.severity = .error)
  warnings : tally.warnings = diagnostics.countP (·.severity = .warning)

theorem counted_start : Counted [] Counters.start {} where
  severities := by
    have zeros : ∀ (severities : List Severity) {listed : List String} {table : Table}, Tabulates listed [] table →
        Tabulates (listed ++ severities.map Severity.name) [] (severities.foldl (fun t s => t.add s.name 0) table) := by
      intro severities
      induction severities with
      | nil => intro listed table tabulates; simpa using tabulates
      | cons severity rest ih =>
        intro listed table tabulates
        have listed := tabulates.list (List.not_mem_nil : severity.name ∉ [])
        simpa using ih listed
    exact zeros Severity.all Tabulates.empty
  rules := Tabulates.empty
  filesOnce := List.nodup_nil
  files := fun _ => Iff.rfl
  errors := rfl
  warnings := rfl

theorem Counted.snoc {diagnostics : List Diagnostic} {c : Counters} {tally : Tally}
    (counted : Counted diagnostics c tally) (d : Diagnostic) :
    Counted (diagnostics ++ [d]) (c.count d) (tally.count d.severity) where
  severities := by
    rw [List.map_append, List.map_singleton]
    exact counted.severities.count
  rules := by
    rw [List.map_append, List.map_singleton]
    exact counted.rules.count
  filesOnce := counted.filesOnce.insert
  files := by
    intro file
    rw [Counters.count, List.mem_insert_iff, counted.files, List.map_append, List.mem_append, List.map_singleton,
      List.mem_singleton, or_comm]
  errors := by
    rw [List.countP_append, ← counted.errors]
    cases is : d.severity <;> simp [Tally.count, is]
  warnings := by
    rw [List.countP_append, ← counted.warnings]
    cases is : d.severity <;> simp [Tally.count, is]

theorem counted_of (diagnostics : List Diagnostic) :
    Counted diagnostics (diagnostics.foldl Counters.count Counters.start) (Tally.of diagnostics) := by
  induction diagnostics using List.reverseRecOn with
  | nil => exact counted_start
  | append_singleton diagnostics d ih =>
    rw [Tally.of, List.foldl_append, List.foldl_append]
    exact ih.snoc d

theorem count_map (f : Diagnostic → String) (key : String) (diagnostics : List Diagnostic) :
    (diagnostics.map f).count key = diagnostics.countP (f · = key) := by
  rw [List.count_eq_countP, List.countP_map]
  exact List.countP_congr fun d _ => by simp

theorem severityName_inj {first second : Severity} : first.name = second.name ↔ first = second := by
  cases first <;> cases second <;> decide

/-! ## Summaries -/

/-- What the summary of a report for programs is to say of some diagnostics. -/
structure Summary.Counts (s : Summary) (diagnostics : List Diagnostic) : Prop where
  total : s.total = diagnostics.length
  severities : (Table.keys s.bySeverity).Perm (Severity.all.map Severity.name)
  severityCounts : ∀ severity, s.bySeverity.lookup severity.name = some (diagnostics.countP (·.severity = severity))
  severitySum : Table.sum s.bySeverity = s.total
  rulesOnce : (Table.keys s.byRule).Nodup
  rules : ∀ id n, (id, n) ∈ s.byRule ↔ 0 < n ∧ diagnostics.countP (·.ruleId = id) = n
  ruleSum : Table.sum s.byRule = s.total
  files : s.filesWithIssues = (diagnostics.map (·.file)).toFinset.card
  filesBetween : diagnostics ≠ [] → 1 ≤ s.filesWithIssues ∧ s.filesWithIssues ≤ s.total

theorem severity_listed (severity : Severity) : severity.name ∈ Severity.all.map Severity.name :=
  List.mem_map_of_mem (by cases severity <;> decide)

theorem filesWithIssues_eq (diagnostics : List Diagnostic) :
    (Summary.of diagnostics).filesWithIssues = (diagnostics.map (·.file)).toFinset.card := by
  have counted := counted_of diagnostics
  have same : (diagnostics.foldl Counters.count Counters.start).files.toFinset =
      (diagnostics.map (·.file)).toFinset := by
    ext file
    rw [List.mem_toFinset, List.mem_toFinset, counted.files]
  rw [← same, List.toFinset_card_of_nodup counted.filesOnce, Summary.of]

theorem summary_counts (diagnostics : List Diagnostic) : (Summary.of diagnostics).Counts diagnostics := by
  have counted := counted_of diagnostics
  refine ⟨rfl, ?_, ?_, ?_, counted.rules.nodup, ?_, ?_, filesWithIssues_eq diagnostics, ?_⟩
  · refine (List.perm_ext_iff_of_nodup counted.severities.nodup (by decide)).mpr fun key => ?_
    rw [counted.severities.mem_keys_iff, or_iff_left_iff_imp, List.mem_map]
    rintro ⟨d, -, rfl⟩
    exact severity_listed d.severity
  · intro severity
    refine (counted.severities.found severity.name).trans ?_
    rw [if_pos (.inl (severity_listed severity)), count_map]
    simp only [severityName_inj]
  · exact counted.severities.sum.trans (List.length_map _)
  · intro id n
    rw [← count_map]
    refine counted.rules.mem_iff.trans ?_
    constructor
    · rintro ⟨listed | occurs, rfl⟩
      · cases listed
      · exact ⟨List.count_pos_iff.mpr occurs, rfl⟩
    · rintro ⟨pos, rfl⟩
      exact ⟨.inr (List.count_pos_iff.mp pos), rfl⟩
  · exact counted.rules.sum.trans (List.length_map _)
  · intro filled
    rw [filesWithIssues_eq]
    obtain ⟨d, rest, rfl⟩ := List.exists_cons_of_ne_nil filled
    refine ⟨Finset.card_pos.mpr ⟨d.file, by simp⟩, ?_⟩
    exact (List.toFinset_card_le _).trans (Nat.le_of_eq (List.length_map _))

theorem summary_perm {diagnostics others : List Diagnostic} (perm : diagnostics.Perm others) :
    Summary.of diagnostics = Summary.of others := by
  have counted := counted_of diagnostics
  have same := counted_of others
  have files : (Summary.of diagnostics).filesWithIssues = (Summary.of others).filesWithIssues := by
    rw [filesWithIssues_eq, filesWithIssues_eq, List.toFinset_eq_of_perm _ _ (perm.map _)]
  rw [Summary.of, Summary.of] at files ⊢
  rw [Summary.mk.injEq]
  exact ⟨perm.length_eq, files, counted.severities.unique same.severities (perm.map _),
    counted.rules.unique same.rules (perm.map _)⟩

theorem tally_perm {diagnostics others : List Diagnostic} (perm : diagnostics.Perm others) :
    Tally.of diagnostics = Tally.of others := by
  have counted := counted_of diagnostics
  have same := counted_of others
  have errors := counted.errors.trans ((perm.countP_eq _).trans same.errors.symm)
  have warnings := counted.warnings.trans ((perm.countP_eq _).trans same.warnings.symm)
  calc Tally.of diagnostics
    _ = ⟨(Tally.of diagnostics).errors, (Tally.of diagnostics).warnings⟩ := rfl
    _ = Tally.of others := by rw [errors, warnings]

/-! ## The last line for readers -/

/-- The line that tells how many problems there are, and how many of them are errors and warnings. -/
def countLine (total errors warnings : Nat) : String :=
  "\nFound " ++ counted total "problem" ++ " (" ++ counted errors "error" ++ ", " ++ counted warnings "warning" ++ ")\n"

theorem render_summaryPage (diagnostics : List Diagnostic) :
    (summaryPage diagnostics).render false =
      countLine diagnostics.length (Tally.of diagnostics).errors (Tally.of diagnostics).warnings := by
  apply String.toList_inj.mp
  by_cases one : diagnostics.length = 1 <;>
    simp [summaryPage, Page.render, Piece.chars, Piece.plain, Piece.bold, Piece.coloured, countLine, counted, one]

theorem renderPretty_eq (colour : Bool) (sources : Sources) {diagnostics : List Diagnostic}
    (filled : diagnostics ≠ []) :
    renderPretty colour sources diagnostics =
      Page.render colour (diagnostics.flatMap (diagnosticPage sources)) ++ (summaryPage diagnostics).render colour := by
  have some : diagnostics.isEmpty = false := by simpa using filled
  rw [renderPretty, prettyPage, some, if_neg Bool.false_ne_true]
  simp [Page.render]

/-- All reports count the same diagnostics: the summary of the report for programs by severity, by rule and by file, the
tally of errors and warnings, and the line that closes the report for readers. No count depends on the order of the
diagnostics. -/
theorem report_counts_agree (diagnostics : List Diagnostic) :
    (Summary.of diagnostics).Counts diagnostics ∧
      (Summary.of diagnostics).bySeverity.lookup Severity.error.name = some (Tally.of diagnostics).errors ∧
      (Summary.of diagnostics).bySeverity.lookup Severity.warning.name = some (Tally.of diagnostics).warnings ∧
      (diagnostics ≠ [] → ∀ colour sources, renderPretty colour sources diagnostics =
        Page.render colour (diagnostics.flatMap (diagnosticPage sources)) ++ (summaryPage diagnostics).render colour) ∧
      (summaryPage diagnostics).render false =
        countLine (Summary.of diagnostics).total (Tally.of diagnostics).errors (Tally.of diagnostics).warnings ∧
      ∀ others, diagnostics.Perm others → Summary.of others = Summary.of diagnostics ∧
        Tally.of others = Tally.of diagnostics ∧ summaryPage others = summaryPage diagnostics := by
  refine ⟨summary_counts diagnostics, ?_, ?_, ?_, render_summaryPage diagnostics, ?_⟩
  · rw [(summary_counts diagnostics).severityCounts, (counted_of diagnostics).errors]
  · rw [(summary_counts diagnostics).severityCounts, (counted_of diagnostics).warnings]
  · exact fun filled colour sources => renderPretty_eq colour sources filled
  · intro others perm
    have tallies := tally_perm perm
    refine ⟨(summary_perm perm).symm, tallies.symm, ?_⟩
    rw [summaryPage, summaryPage, tallies, perm.length_eq]

/-- Three diagnostics in two files. -/
def mixedSeverities : List Diagnostic :=
  [⟨"PARSE", .error, "Unexpected token", "a.js", ⟨⟨1, 7⟩, ⟨1, 7⟩⟩, none⟩,
    ⟨"N002", .warning, "constant 'a'", "a.js", ⟨⟨2, 1⟩, ⟨2, 12⟩⟩, none⟩,
    ⟨"N002", .hint, "constant 'b'", "b.js", ⟨⟨1, 1⟩, ⟨1, 12⟩⟩, none⟩]

theorem mixedSeverities_counted :
    mixedSeverities ≠ [] ∧ (Summary.of mixedSeverities).Counts mixedSeverities ∧
      Summary.of mixedSeverities =
        ⟨3, 2, [("error", 1), ("hint", 1), ("info", 0), ("warning", 1)], [("N002", 2), ("PARSE", 1)]⟩ ∧
      (summaryPage mixedSeverities).render false = countLine 3 1 1 ∧
      mixedSeverities.Perm mixedSeverities.reverse ∧
      Summary.of mixedSeverities.reverse = Summary.of mixedSeverities := by
  have filled : mixedSeverities ≠ [] := by simp [mixedSeverities]
  have perm : mixedSeverities.Perm mixedSeverities.reverse := (List.reverse_perm _).symm
  obtain ⟨counts, -, -, -, line, same⟩ := report_counts_agree mixedSeverities
  exact ⟨filled, counts, by decide, line, perm, (same _ perm).1⟩

end NameCheck.Report
