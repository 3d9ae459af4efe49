import Mathlib.Data.List.Basic
import NameCheck.Text.Pieces

/-!
The pieces of a text between separators, whatever the separator is: they are those of the library (`pieces_eq_splitOn`),
and together they hold all other characters of the text (`mem_pieces`).
-/
namespace NameCheck.Text

variable {separator : Char}

theorem pieces_eq_splitOn (separator : Char) (cs : List Char) : pieces separator cs = cs.splitOn separator := by
  induction cs with
  | nil => rfl
  | cons c rest ih =>
    rw [pieces, ih, List.splitOn_cons_eq_if_modifyHead]
    by_cases same : c = separator
    · simp [same]
    · rw [if_neg same, if_neg (by simpa using same)]
      cases split : rest.splitOn separator with
      | nil => exact absurd split (List.splitOn_ne_nil separator rest)
      | cons first more => rfl

theorem mem_pieces (cs : List Char) (c : Char) : (∃ piece ∈ pieces separator cs, c ∈ piece) ↔ c ∈ cs ∧ c ≠ separator := by
  rw [pieces_eq_splitOn]
  induction cs with
  | nil => simp
  | cons first rest ih =>
    rw [List.splitOn_cons_eq_if_modifyHead, List.mem_cons, or_and_right, ← ih]
    by_cases same : first = separator
    · simp [same]
    · obtain ⟨piece, more, is⟩ := List.exists_cons_of_ne_nil (List.splitOn_ne_nil separator rest)
      have other : c = first → c ≠ separator := fun equal => equal ▸ same
      rw [if_neg (by simpa using same), is, List.modifyHead_cons, and_iff_left_of_imp other]
      simp [or_assoc]

theorem separator_not_mem_pieces {cs piece : List Char} (member : piece ∈ pieces separator cs) : separator ∉ piece :=
  fun inside => ((mem_pieces cs separator).mp ⟨piece, member, inside⟩).2 rfl

/-- A text without separators behind another one stands behind its last piece. -/
theorem pieces_append {trail : List Char} (plain : separator ∉ trail) (cs : List Char) :
    ∃ before last, pieces separator cs = before ++ [last] ∧
      pieces separator (cs ++ trail) = before ++ [last ++ trail] := by
  simp only [pieces_eq_splitOn]
  induction cs with
  | nil => exact ⟨[], [], rfl, List.splitOn_eq_singleton plain⟩
  | cons c rest ih =>
    obtain ⟨before, last, is, are⟩ := ih
    rw [List.cons_append, List.splitOn_cons_eq_if_modifyHead, List.splitOn_cons_eq_if_modifyHead, is, are]
    split
    · exact ⟨[] :: before, last, rfl, rfl⟩
    · cases before with
      | nil => exact ⟨[], c :: last, rfl, rfl⟩
      | cons piece more => exact ⟨(c :: piece) :: more, last, rfl, rfl⟩

end NameCheck.Text
