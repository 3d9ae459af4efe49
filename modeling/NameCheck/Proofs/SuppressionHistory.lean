import Mathlib.Data.Set.Card
import NameCheck.Proofs.Suppressions

/-!
Suppressions that are added to those of comments. What is switched off adds up (`isDisabled_ofComments_after`), and there
is one entry for each line that some directive or call is for (`size_ofComments_after`).
-/
namespace NameCheck

/-- Some directive among comments or some call is for a line. -/
def Targeted (comments : List (Nat × String)) (calls : List (Nat × Suppression)) (line : Nat) : Prop :=
  (∃ comment ∈ comments, ∃ refs, Directs comment.1 comment.2 line refs) ∨ ∃ suppression, (line, suppression) ∈ calls

/-- Some directive among comments or some call for a line switches all rules off there or lists a rule. -/
def SwitchedOff (comments : List (Nat × String)) (calls : List (Nat × Suppression)) (line : Nat) (ref : String) :
    Prop :=
  SwitchesOff comments line ref ∨ (line, .all) ∈ calls ∨ ∃ refs, (line, .rules refs) ∈ calls ∧ ref ∈ refs

theorem covered_iff (calls : List (Nat × Suppression)) (line : Nat) (ref : String) :
    (∃ suppression, (line, suppression) ∈ calls ∧ suppression.covers ref = true) ↔
      (line, .all) ∈ calls ∨ ∃ refs, (line, .rules refs) ∈ calls ∧ ref ∈ refs := by
  constructor
  · rintro ⟨suppression, member, covers⟩
    cases suppression with
    | all => exact .inl member
    | rules refs => exact .inr ⟨refs, member, by simpa [Suppression.covers] using covers⟩
  · rintro (member | ⟨refs, member, lists⟩)
    · exact ⟨.all, member, rfl⟩
    · exact ⟨.rules refs, member, by simpa [Suppression.covers] using lists⟩

namespace Directives

variable (comments : List (Nat × String)) (calls : List (Nat × Suppression))

theorem isDisabled_ofComments_after (line : Nat) (ref : String) :
    ((ofComments comments).after calls).isDisabled line ref = true ↔ SwitchedOff comments calls line ref := by
  rw [isDisabled_after, isDisabled_ofComments, covered_iff]
  rfl

theorem size_ofComments_after :
    ((ofComments comments).after calls).size = {line | Targeted comments calls line}.ncard := by
  have once := nodup_lines_after (nodup_lines_ofComments comments) calls
  rw [size_eq, ← List.toFinset_card_of_nodup once, ← Set.ncard_coe_finset]
  congr 1
  ext line
  simp [mem_lines_after, mem_lines_ofComments, Targeted]

end Directives

/-- What comments and then calls switch off adds up: a rule is switched off on a line just if some directive or call for
the line is for all rules or lists the rule, and there are as many entries as lines that they are for. So the order of
comments and of calls does not matter, nor how often they are repeated, and more of them switch no rule on again. -/
theorem suppressions_add_up (comments : List (Nat × String)) (calls : List (Nat × Suppression)) :
    (∀ line ref, ((Directives.ofComments comments).after calls).isDisabled line ref = true ↔
      SwitchedOff comments calls line ref) ∧
    ((Directives.ofComments comments).after calls).size = {line | Targeted comments calls line}.ncard ∧
    (∀ (otherComments : List (Nat × String)) (otherCalls : List (Nat × Suppression)),
      (∀ comment, comment ∈ otherComments ↔ comment ∈ comments) → (∀ call, call ∈ otherCalls ↔ call ∈ calls) →
        (∀ line ref, ((Directives.ofComments otherComments).after otherCalls).isDisabled line ref =
          ((Directives.ofComments comments).after calls).isDisabled line ref) ∧
        ((Directives.ofComments otherComments).after otherCalls).size =
          ((Directives.ofComments comments).after calls).size) ∧
    ∀ (moreComments : List (Nat × String)) (moreCalls : List (Nat × Suppression)),
      comments ⊆ moreComments → calls ⊆ moreCalls → ∀ line ref,
        ((Directives.ofComments comments).after calls).isDisabled line ref = true →
          ((Directives.ofComments moreComments).after moreCalls).isDisabled line ref = true := by
  refine ⟨Directives.isDisabled_ofComments_after comments calls, Directives.size_ofComments_after comments calls,
    ?_, ?_⟩
  · intro otherComments otherCalls sameComments sameCalls
    refine ⟨fun line ref => ?_, ?_⟩
    · rw [Bool.eq_iff_iff, Directives.isDisabled_ofComments_after, Directives.isDisabled_ofComments_after]
      simp only [SwitchedOff, SwitchesOff, sameComments, sameCalls]
    · rw [Directives.size_ofComments_after, Directives.size_ofComments_after]
      simp only [Targeted, sameComments, sameCalls]
  · intro moreComments moreCalls fewerComments fewerCalls line ref
    rw [Directives.isDisabled_ofComments_after, Directives.isDisabled_ofComments_after]
    rintro (⟨comment, member, directs⟩ | all | ⟨refs, member, lists⟩)
    · exact .inl ⟨comment, fewerComments member, directs⟩
    · exact .inr (.inl (fewerCalls all))
    · exact .inr (.inr ⟨refs, fewerCalls member, lists⟩)

/-- Two directives for one line, one of them for all rules, and a comment that is no directive. -/
def mergedComments : List (Nat × String) :=
  [(3, "namelint-disable-line A,B"), (7, "see namelint-disable-line"), (2, " namelint-disable-next-line")]

/-- Calls for that line and for two others, one of which lists no rule and one a rule twice. -/
def mergedCalls : List (Nat × Suppression) := [(5, .rules []), (3, .rules ["C"]), (4, .rules ["D", "D"])]

/-- The directives of the same comments and calls, all of them twice and in another order. -/
def mergedAgain : Directives :=
  (Directives.ofComments (mergedComments.reverse ++ mergedComments)).after (mergedCalls ++ mergedCalls.reverse)

theorem merged_add_up :
    {line | Targeted mergedComments mergedCalls line}.ncard = 3 ∧
      ¬ SwitchedOff mergedComments mergedCalls 5 "A" ∧
      mergedAgain.size = 3 ∧ mergedAgain.isDisabled 3 "Z" = true ∧
      ((Directives.ofComments mergedComments).after (mergedCalls ++ [(3, .rules ["E"])])).isDisabled 3 "Z" = true := by
  obtain ⟨answers, counts, congr, more⟩ := suppressions_add_up mergedComments mergedCalls
  obtain ⟨same, size⟩ := congr (mergedComments.reverse ++ mergedComments) (mergedCalls ++ mergedCalls.reverse)
    (by simp) (by simp)
  have three : ((Directives.ofComments mergedComments).after mergedCalls).size = 3 := by decide +kernel
  have first : ((Directives.ofComments mergedComments).after mergedCalls).isDisabled 3 "Z" = true := by decide +kernel
  refine ⟨counts.symm.trans three, ?_, size.trans three, (same 3 "Z").trans first, ?_⟩
  · rw [← answers]
    decide +kernel
  · exact more _ _ (List.Subset.refl _) (List.subset_append_left _ _) 3 "Z" first

end NameCheck
