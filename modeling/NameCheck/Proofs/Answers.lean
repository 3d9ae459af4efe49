import Mathlib.Data.List.Basic

/-!
Answers for every item of a list. Such a list has answers just if no item lacks one (`mapM_eq_none_iff`), and then they
are the answers of its items (`mem_of_mapM`).
-/
namespace NameCheck

variable {α β γ : Type} {items : List α}

theorem mapM_eq_none_iff {f : α → Option β} : items.mapM f = none ↔ ∃ item ∈ items, f item = none := by
  induction items with
  | nil => simp
  | cons item rest ih =>
    rw [List.mapM_cons]
    cases head : f item with
    | none => simp [head]
    | some answer =>
      cases tail : rest.mapM f with
      | none => simpa [tail, head] using ih.mp tail
      | some answers =>
        have answered : ¬ ∃ item ∈ rest, f item = none := fun broken => by simp [ih.mpr broken] at tail
        simpa [head] using answered

/-- What comes of a list for which every item has an answer are these answers. -/
theorem mem_of_mapM {f : α → Option β} {answers : List β} (all : items.mapM f = some answers) (answer : β) :
    answer ∈ answers ↔ ∃ item ∈ items, f item = some answer := by
  induction items generalizing answers with
  | nil =>
    obtain rfl : answers = [] := by simpa using all.symm
    simp
  | cons item rest ih =>
    rw [List.mapM_cons] at all
    obtain ⟨first, head, all⟩ := Option.bind_eq_some_iff.mp all
    obtain ⟨others, tail, all⟩ := Option.bind_eq_some_iff.mp all
    obtain rfl : first :: others = answers := Option.some.inj all
    simp [ih tail, head, eq_comm]

/-- If every item has an answer, the list has one. -/
theorem mapM_answered {f : α → Option β} (answered : ∀ item ∈ items, ∃ answer, f item = some answer) :
    ∃ answers, items.mapM f = some answers := by
  refine Option.ne_none_iff_exists'.mp fun broken => ?_
  obtain ⟨item, member, lost⟩ := mapM_eq_none_iff.mp broken
  obtain ⟨answer, found⟩ := answered item member
  simp [lost] at found

/-- What the lists that come of some items hold together. -/
theorem mem_flatten_of_mapM {f : α → Option (List β)} {answers : List (List β)}
    (all : items.mapM f = some answers) (b : β) :
    b ∈ answers.flatten ↔ ∃ item ∈ items, ∃ answer, f item = some answer ∧ b ∈ answer := by
  rw [List.mem_flatten]
  constructor
  · rintro ⟨answer, member, inside⟩
    obtain ⟨item, member, found⟩ := (mem_of_mapM all answer).mp member
    exact ⟨item, member, answer, found, inside⟩
  · rintro ⟨item, member, answer, found, inside⟩
    exact ⟨answer, (mem_of_mapM all answer).mpr ⟨item, member, found⟩, inside⟩

/-- What comes of items whose answers are known is the answers one after the other. -/
theorem flatten_mapM {f : α → Option (List β)} {answer : α → List β}
    (answered : ∀ item ∈ items, f item = some (answer item)) :
    (items.mapM f).map List.flatten = some (items.flatMap answer) := by
  induction items with
  | nil => rfl
  | cons item rest ih =>
    obtain ⟨others, runs, flat⟩ := Option.map_eq_some_iff.mp (ih fun item member => answered item (.tail _ member))
    rw [List.mapM_cons, answered item (.head _), runs, List.flatMap_cons, ← flat]
    rfl

/-- Answers for the parts of some items are answers for the parts of all of them. -/
theorem mapM_parts (parts : α → List β) (f : α → β → Option γ) (items : List α) :
    (items.mapM fun item => (parts item).mapM (f item)).map List.flatten =
      (items.flatMap fun item => (parts item).map fun part => (item, part)).mapM fun pair => f pair.1 pair.2 := by
  induction items with
  | nil => rfl
  | cons item rest ih =>
    rw [List.mapM_cons, List.flatMap_cons, List.mapM_append, ← ih, List.mapM_map]
    simp only [Function.comp_def]
    cases (parts item).mapM (f item) with
    | none => rfl
    | some answers => cases rest.mapM fun item => (parts item).mapM (f item) <;> rfl

/-- What is made of each answer is made of the answers. -/
theorem map_mapM (f : α → Option β) (g : β → γ) (items : List α) :
    (items.mapM f).map (List.map g) = items.mapM fun item => (f item).map g := by
  induction items with
  | nil => rfl
  | cons item rest ih =>
    rw [List.mapM_cons, List.mapM_cons, ← ih]
    cases f item with
    | none => rfl
    | some answer => cases rest.mapM f <;> rfl

/-- Two lists of answers are the same just if all answers are, where none is missing in one of them. -/
theorem mapM_eq_iff {f g : α → Option β} (answered : ∀ item ∈ items, ∃ answer, g item = some answer) :
    items.mapM f = items.mapM g ↔ ∀ item ∈ items, f item = g item := by
  induction items with
  | nil => simp
  | cons item rest ih =>
    obtain ⟨answer, is⟩ := answered item (.head _)
    have others : ∀ item ∈ rest, ∃ answer, g item = some answer := fun item member => answered item (.tail _ member)
    obtain ⟨answers, are⟩ := mapM_answered others
    rw [List.forall_mem_cons, ← ih others, List.mapM_cons, List.mapM_cons, is, are]
    cases f item with
    | none => simp
    | some found => cases rest.mapM f <;> simp

end NameCheck
