import Mathlib.Data.List.Basic

/-!
Looking up keys in lists of entries.
-/
namespace NameCheck

variable {α : Type} {entries : List (String × α)} {key : String} {value : α}

theorem mem_of_lookup (found : entries.lookup key = some value) : (key, value) ∈ entries := by
  obtain ⟨before, after, rfl, -⟩ := List.lookup_eq_some_iff.mp found
  simp

theorem lookup_of_mem (distinct : (entries.map Prod.fst).Nodup) (member : (key, value) ∈ entries) :
    entries.lookup key = some value := by
  obtain ⟨before, after, rfl⟩ := List.append_of_mem member
  rw [List.map_append, List.map_cons] at distinct
  refine List.lookup_eq_some_iff.mpr ⟨before, after, rfl, fun other earlier => ?_⟩
  rw [bne_iff_ne]
  rintro rfl
  exact (List.nodup_append.mp distinct).2.2 _ (List.mem_map_of_mem earlier) _ List.mem_cons_self rfl

theorem lookup_eq_none_iff : entries.lookup key = none ↔ key ∉ entries.map Prod.fst := by
  rw [List.lookup_eq_none_iff]
  constructor
  · intro differ listed
    obtain ⟨entry, member, rfl⟩ := List.mem_map.mp listed
    simpa using differ entry member
  · intro absent entry member
    simpa using fun same : key = entry.1 => absent (same ▸ List.mem_map_of_mem member)

theorem lookup_cons_of_ne {other : String} (differ : key ≠ other) :
    List.lookup key ((other, value) :: entries) = entries.lookup key := by
  simp [List.lookup_cons, beq_eq_false_iff_ne.mpr differ]

end NameCheck
