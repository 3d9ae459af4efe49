import Mathlib.Data.List.Infix
import NameCheck.Rule.IconName

/-!
Which names are those of icons. A name is searched for a pattern: any number of letters `w`, the word `Icon` and a word
boundary. The letters can as well be part of what stands before the pattern, so that a name passes just if one of the
places with `Icon` in it is followed by no word character (`isIconName_iff`).
-/
namespace NameCheck.IconName

open Text (isWord)

/-- The word that names of icons have in them. -/
def word : List Char := "Icon".toList

/-- A word boundary between two texts: just one of the characters next to it is a word character. -/
def Boundary (before after : List Char) : Prop := before.getLast?.any isWord ≠ after.head?.any isWord

/-- The pattern somewhere in a text. -/
def PatternIn (text : List Char) : Prop :=
  ∃ before count after, text = before ++ List.replicate count 'w' ++ word ++ after ∧
    Boundary (before ++ List.replicate count 'w' ++ word) after

/-- A text that continues no word. -/
def Apart (after : List Char) : Prop := ∀ c, after.head? = some c → isWord c = false

theorem boundary_word (before after : List Char) : Boundary (before ++ word) after ↔ Apart after := by
  have last : (before ++ word).getLast?.any isWord = true := by
    rw [List.getLast?_append_of_ne_nil before (by decide)]
    decide
  rw [Boundary, last]
  cases after with
  | nil => simp [Apart]
  | cons c rest => simp [Apart]

theorem iconHere_iff (text : List Char) : iconHere text = true ↔ ∃ after, text = word ++ after ∧ Apart after := by
  unfold iconHere
  split
  · next rest =>
    have same : ∀ after, 'I' :: 'c' :: 'o' :: 'n' :: rest = word ++ after ↔ rest = after := by
      intro after
      simp [word]
    simp only [same, exists_eq_left']
    cases rest with
    | nil => simp [Apart]
    | cons c rest => simp [Apart]
  · next other =>
    refine iff_of_false Bool.false_ne_true ?_
    rintro ⟨after, rfl, -⟩
    exact other after rfl

/-- Letters `w` before the word are passed over, as many as there are. -/
theorem iconAfterWs_iff (text : List Char) :
    iconAfterWs text = true ↔ ∃ count after, text = List.replicate count 'w' ++ after ∧ iconHere after = true := by
  fun_induction iconAfterWs text with
  | case1 rest ih =>
    rw [ih]
    constructor
    · rintro ⟨count, after, rfl, here⟩
      exact ⟨count + 1, after, rfl, here⟩
    · rintro ⟨count, after, is, here⟩
      cases count with
      | zero =>
        obtain rfl : 'w' :: rest = after := is
        cases here
      | succ count => exact ⟨count, after, (List.cons.inj is).2, here⟩
  | case2 text other =>
    constructor
    · intro here
      exact ⟨0, text, rfl, here⟩
    · rintro ⟨count, after, rfl, here⟩
      cases count with
      | zero => exact here
      | succ count => exact absurd rfl (other _)

theorem isIconName_iff_after (text : List Char) :
    isIconName text = true ↔ ∃ before after, text = before ++ after ∧ iconAfterWs after = true := by
  induction text with
  | nil =>
    refine iff_of_false Bool.false_ne_true ?_
    rintro ⟨before, after, is, here⟩
    obtain ⟨-, rfl⟩ := List.append_eq_nil_iff.mp is.symm
    cases here
  | cons c rest ih =>
    rw [isIconName, Bool.or_eq_true, ih]
    constructor
    · rintro (here | ⟨before, after, rfl, later⟩)
      · exact ⟨[], c :: rest, rfl, here⟩
      · exact ⟨c :: before, after, rfl, later⟩
    · rintro ⟨before, after, is, there⟩
      cases before with
      | nil =>
        obtain rfl : c :: rest = after := is
        exact .inl there
      | cons first before => exact .inr ⟨before, after, (List.cons.inj is).2, there⟩

/-- The letters before the word make no difference: they are part of what stands before it. -/
theorem isIconName_iff_here (text : List Char) :
    isIconName text = true ↔ ∃ before after, text = before ++ after ∧ iconHere after = true := by
  rw [isIconName_iff_after]
  constructor
  · rintro ⟨before, rest, rfl, found⟩
    obtain ⟨count, after, rfl, here⟩ := (iconAfterWs_iff rest).mp found
    exact ⟨before ++ List.replicate count 'w', after, (List.append_assoc _ _ _).symm, here⟩
  · rintro ⟨before, after, rfl, here⟩
    exact ⟨before, after, rfl, (iconAfterWs_iff after).mpr ⟨0, after, rfl, here⟩⟩

theorem isIconName_iff (text : List Char) :
    isIconName text = true ↔ ∃ before after, text = before ++ word ++ after ∧ Apart after := by
  rw [isIconName_iff_here]
  constructor
  · rintro ⟨before, rest, rfl, here⟩
    obtain ⟨after, rfl, apart⟩ := (iconHere_iff rest).mp here
    exact ⟨before, after, (List.append_assoc _ _ _).symm, apart⟩
  · rintro ⟨before, after, rfl, apart⟩
    exact ⟨before, word ++ after, List.append_assoc _ _ _, (iconHere_iff _).mpr ⟨after, rfl, apart⟩⟩

theorem patternIn_iff (text : List Char) : PatternIn text ↔ isIconName text = true := by
  rw [isIconName_iff]
  constructor
  · rintro ⟨before, count, after, is, ends⟩
    exact ⟨_, after, is, (boundary_word _ after).mp ends⟩
  · rintro ⟨before, after, rfl, apart⟩
    refine ⟨before, 0, after, by simp, ?_⟩
    exact (boundary_word _ after).mpr apart

/-- A search without the letters before the word. -/
theorem isIconName_eq_any (text : List Char) : isIconName text = text.tails.any iconHere := by
  rw [Bool.eq_iff_iff, isIconName_iff_here, List.any_eq_true]
  constructor
  · rintro ⟨before, after, rfl, here⟩
    exact ⟨after, (List.mem_tails _ _).mpr (List.suffix_append before after), here⟩
  · rintro ⟨after, member, here⟩
    obtain ⟨before, rfl⟩ := (List.mem_tails _ _).mp member
    exact ⟨before, after, rfl, here⟩

/-- The word `Icon` in a name, at the end or before a character that is no word character. -/
def HasIconWord (name : String) : Prop :=
  ∃ before after : String, name = before ++ "Icon" ++ after ∧
    (after = "" ∨ ∃ c rest, after.toList = c :: rest ∧ isWord c = false)

theorem apart_toList (after : String) :
    Apart after.toList ↔ after = "" ∨ ∃ c rest, after.toList = c :: rest ∧ isWord c = false := by
  rw [← String.toList_eq_nil_iff]
  cases after.toList with
  | nil => simp [Apart]
  | cons c rest => simp [Apart]

theorem isIconName_toList (name : String) : isIconName name.toList = true ↔ HasIconWord name := by
  rw [isIconName_iff]
  constructor
  · rintro ⟨before, after, is, apart⟩
    refine ⟨String.ofList before, String.ofList after, ?_, ?_⟩
    · rw [← String.toList_inj, is]
      simp [word]
    · rw [← apart_toList, String.toList_ofList]
      exact apart
  · rintro ⟨before, after, rfl, apart⟩
    refine ⟨before.toList, after.toList, ?_, (apart_toList after).mpr apart⟩
    rw [String.toList_append, String.toList_append]
    rfl

theorem checkImport_eq_none {span : Span} {source : String} (graphic : contains ".svg".toList source.toList = true)
    (first : Syntax.Ident) (rest : List Syntax.Ident) :
    checkImport span source (first :: rest) = none ↔ isIconName first.name.toList = true := by
  rw [checkImport, if_pos graphic]
  cases isIconName first.name.toList <;> simp

/-- A name passes as that of an icon just if the pattern is in it, and just if the word `Icon` stands in it at the end or
before a character that is no word character. The search would give the same answer without the letters before the word,
and whatever stands before a name that passes, other places with the word included, it still passes. So the import of a
graphic is right just if its first name has the word in it. -/
theorem icon_names_have_word (name : String) :
    (isIconName name.toList = true ↔ PatternIn name.toList) ∧
      (isIconName name.toList = true ↔ HasIconWord name) ∧
      isIconName name.toList = name.toList.tails.any iconHere ∧
      (isIconName name.toList = true → ∀ earlier : String, isIconName (earlier ++ name).toList = true) ∧
      ∀ (span : Span) (source : String) (first : Syntax.Ident) (rest : List Syntax.Ident),
        contains ".svg".toList source.toList = true → first.name = name →
          (checkImport span source (first :: rest) = none ↔ HasIconWord name) := by
  refine ⟨(patternIn_iff _).symm, isIconName_toList name, isIconName_eq_any _, ?_, ?_⟩
  · intro passes earlier
    obtain ⟨before, after, is, apart⟩ := (isIconName_iff _).mp passes
    refine (isIconName_iff _).mpr ⟨earlier.toList ++ before, after, ?_, apart⟩
    rw [String.toList_append, is]
    simp only [List.append_assoc]
  · rintro span source first rest graphic rfl
    rw [checkImport_eq_none graphic, isIconName_toList]

/-- The first place with the word is in the middle of a word, and the second one is not. -/
theorem iconsIcon_passes :
    isIconName "IconsIcon$Box".toList = true ∧ HasIconWord "IconsIcon$Box" ∧
      isIconName ("Icons" ++ "IconsIcon$Box").toList = true ∧
      contains ".svg".toList "./box.svg?raw".toList = true ∧
      ∀ span, checkImport span "./box.svg?raw" [⟨span, "IconsIcon$Box"⟩] = none := by
  have passes : isIconName "IconsIcon$Box".toList = true := by decide
  have graphic : contains ".svg".toList "./box.svg?raw".toList = true := by decide
  obtain ⟨-, has, -, later, imports⟩ := icon_names_have_word "IconsIcon$Box"
  refine ⟨passes, has.mp passes, later passes "Icons", graphic, fun span => ?_⟩
  exact (imports span _ ⟨span, "IconsIcon$Box"⟩ [] graphic rfl).mpr (has.mp passes)

end NameCheck.IconName
