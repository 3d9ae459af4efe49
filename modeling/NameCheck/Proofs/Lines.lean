import NameCheck.Proofs.Positions

/-!
The two ways to count lines. Violations stand on lines that a line feed ends; directives count a carriage return without
a line feed as the end of a line, too. Inside a text the two counts differ by the number of such carriage returns before
the offset (`line_displayFrom`).
-/
namespace NameCheck

open Text (byteLength)

/-! ## Lone carriage returns -/

/-- The character at a place of a text is a carriage return that no line feed follows. -/
def IsLoneReturn (text : List Char) (place : Nat) : Prop := text[place]? = some '\r' ∧ text[place + 1]? ≠ some '\n'

instance (text : List Char) (place : Nat) : Decidable (IsLoneReturn text place) := inferInstanceAs (Decidable (_ ∧ _))

/-- The number of lone carriage returns that stand before an offset. -/
def loneReturns (text : List Char) (offset : Nat) : Nat :=
  (List.range text.length).countP fun place => IsLoneReturn text place ∧ byteLength (text.take place) < offset

theorem isLoneReturn_succ (c : Char) (rest : List Char) (place : Nat) :
    IsLoneReturn (c :: rest) (place + 1) ↔ IsLoneReturn rest place := by
  simp only [IsLoneReturn, List.getElem?_cons_succ]

theorem loneReturns_zero (text : List Char) : loneReturns text 0 = 0 := by
  simp [loneReturns]

/-- The first character counts if it is a lone carriage return, and the others do as they do without it. -/
theorem loneReturns_cons (c : Char) (rest : List Char) (offset : Nat) :
    loneReturns (c :: rest) (c.utf8Size + offset) =
      (if IsLoneReturn (c :: rest) 0 then 1 else 0) + loneReturns rest offset := by
  have size := c.utf8Size_pos
  have first : byteLength ((c :: rest).take 0) < c.utf8Size + offset := by
    rw [List.take_zero, byteLength]
    omega
  have others : ∀ place, (IsLoneReturn (c :: rest) (place + 1) ∧
      byteLength ((c :: rest).take (place + 1)) < c.utf8Size + offset) ↔
        IsLoneReturn rest place ∧ byteLength (rest.take place) < offset := by
    intro place
    rw [isLoneReturn_succ, List.take_succ_cons, byteLength, Nat.add_lt_add_iff_left]
  rw [loneReturns, List.length_cons, List.range_succ_eq_map, List.countP_cons, List.countP_map, Nat.add_comm]
  simp only [Function.comp_def, others, first, and_true, decide_eq_true_eq]
  rfl

/-! ## Lines from a place on -/

namespace Source

variable (line column : Nat) (bytes : Nat) {rest : List Char}

theorem displayFrom_feed (more : rest ≠ []) :
    displayFrom line column (bytes + 1) ('\n' :: rest) = displayFrom (line + 1) 1 bytes rest := by
  rw [displayFrom, if_neg (by simpa using more)]

theorem displayFrom_return (more : rest ≠ []) :
    displayFrom line column (bytes + 1) ('\r' :: rest) =
      if IsLoneReturn ('\r' :: rest) 0 then displayFrom (line + 1) 1 bytes rest
      else displayFrom line (column + 1) bytes rest := by
  have lone : IsLoneReturn ('\r' :: rest) 0 ↔ rest.head? ≠ some '\n' := by
    simp [IsLoneReturn, List.head?_eq_getElem?]
  rw [displayFrom]
  by_cases follows : rest.head? = some '\n'
  · rw [if_pos (by simp [follows]), if_neg fun is => lone.mp is follows]
  · rw [if_neg (by simp [more, follows]), if_pos (lone.mpr follows)]

theorem displayFrom_other {c : Char} (feed : c ≠ '\n') (return_ : c ≠ '\r') :
    displayFrom line column (bytes + 1) (c :: rest) =
      displayFrom line (column + displayStep c) (bytes + 1 - c.utf8Size) rest := by
  rw [displayFrom]
  · exact feed
  · exact return_

/-- Counting on over a part of a text that does not end it adds its line feeds and its lone carriage returns. -/
theorem line_displayFrom (line column : Nat) (before : List Char) {after : List Char} (more : after ≠ []) :
    (displayFrom line column (byteLength before) (before ++ after)).line =
      line + before.count '\n' + loneReturns (before ++ after) (byteLength before) := by
  induction before generalizing line column with
  | nil =>
    rw [byteLength, loneReturns_zero]
    cases after <;> rfl
  | cons c before ih =>
    have goes : before ++ after ≠ [] := List.append_ne_nil_of_right_ne_nil before more
    rw [List.cons_append, byteLength, loneReturns_cons, List.count_cons]
    by_cases feed : c = '\n'
    · subst feed
      have size : '\n'.utf8Size + byteLength before = byteLength before + 1 := Nat.add_comm 1 _
      have counts : ¬ IsLoneReturn ('\n' :: (before ++ after)) 0 := by simp [IsLoneReturn]
      rw [size, displayFrom_feed line column _ goes, ih, if_neg counts, if_pos (by decide)]
      omega
    · by_cases return_ : c = '\r'
      · subst return_
        have size : '\r'.utf8Size + byteLength before = byteLength before + 1 := Nat.add_comm 1 _
        have other : ¬ ('\r' == '\n') = true := by decide
        rw [size, displayFrom_return line column _ goes, if_neg other]
        by_cases counts : IsLoneReturn ('\r' :: (before ++ after)) 0
        · rw [if_pos counts, if_pos counts, ih]
          omega
        · rw [if_neg counts, if_neg counts, ih]
          omega
      · obtain ⟨size, is⟩ : ∃ size, c.utf8Size = size + 1 := ⟨c.utf8Size - 1, by have := c.utf8Size_pos; omega⟩
        have bytes : c.utf8Size + byteLength before = byteLength before + size + 1 := by omega
        have left : byteLength before + size + 1 - c.utf8Size = byteLength before := by omega
        have counts : ¬ IsLoneReturn (c :: (before ++ after)) 0 := by simp [IsLoneReturn, return_]
        rw [bytes, displayFrom_other line column _ feed return_, left, ih, if_neg counts, if_neg (by simpa using feed)]
        omega

end Source

/-! ## Lines of offsets -/

/-- The line on which a directive stands that starts at an offset of a source. -/
def directiveLine (source : String) (offset : Nat) : Nat :=
  (Source.displayPosition (Script.withoutMark source.toList) offset).line

/-- The line on which a violation stands that starts at an offset of a source. -/
def violationLine? (source : String) (offset : Nat) : Option Nat :=
  (Source.position? source.toList offset).map (·.line)

theorem directiveLine_append {source : String} (unmarked : Script.withoutMark source.toList = source.toList)
    {before after : List Char} (splits : source.toList = before ++ after) (more : after ≠ []) :
    directiveLine source (byteLength before) =
      before.count '\n' + 1 + loneReturns source.toList (byteLength before) := by
  rw [directiveLine, unmarked, splits, Source.displayPosition, Source.line_displayFrom 1 1 before more]
  omega

theorem violationLine?_append {source : String} {before after : List Char} (splits : source.toList = before ++ after) :
    violationLine? source (byteLength before) = some (before.count '\n' + 1) := by
  rw [violationLine?, splits, position?_append, Option.map_some, Source.positionAfter]

/-- A lone carriage return counts as soon as an offset stands behind it. -/
theorem loneReturns_pos {text : List Char} {offset : Nat} :
    0 < loneReturns text offset ↔ ∃ place, IsLoneReturn text place ∧ byteLength (text.take place) < offset := by
  rw [loneReturns, List.countP_pos_iff]
  simp only [List.mem_range, decide_eq_true_eq]
  refine exists_congr fun place => ⟨And.right, fun is => ⟨?_, is⟩⟩
  obtain ⟨inside, -⟩ := List.getElem?_eq_some_iff.mp is.1.1
  exact inside

/-- The offset behind a lone carriage return is that of its next character. -/
theorem IsLoneReturn.edge {text : List Char} {place : Nat} (lone : IsLoneReturn text place) :
    IsEdge text (byteLength (text.take place) + 1) := by
  obtain ⟨inside, is⟩ := List.getElem?_eq_some_iff.mp lone.1
  refine ⟨text.take (place + 1), text.drop (place + 1), (List.take_append_drop _ _).symm, ?_⟩
  rw [List.take_add_one, List.getElem?_eq_getElem inside, is, byteLength_append]
  rfl

/-- Where a source does not start with a byte-order mark, directives count, at every offset of a character, as many
lines more than violations do as there are lone carriage returns before the offset. So the two agree at all of them just
if no lone carriage return stands before the last byte. -/
theorem directive_lines_count_returns (source : String) (unmarked : source.toList.head? ≠ some (Char.ofNat 0xfeff)) :
    (∀ offset, IsEdge source.toList offset → offset < byteLength source.toList →
      ∃ line, violationLine? source offset = some line ∧
        directiveLine source offset = line + loneReturns source.toList offset) ∧
      ((∀ offset, IsEdge source.toList offset → offset < byteLength source.toList →
          violationLine? source offset = some (directiveLine source offset)) ↔
        ¬ ∃ place, IsLoneReturn source.toList place ∧
          byteLength (source.toList.take place) + 1 < byteLength source.toList) ∧
      ∀ filename script, Script.read? filename source = some script →
        (∃ comments : List Syntax.LineComment, script.directives =
          .ofComments (comments.map fun comment => (directiveLine source comment.offset, comment.text))) ∧
        ∀ span, (script.location? span).map (·.line) = violationLine? source span.lo := by
  have whole := withoutMark_unmarked unmarked
  have lines : ∀ offset, IsEdge source.toList offset → offset < byteLength source.toList →
      ∃ line, violationLine? source offset = some line ∧
        directiveLine source offset = line + loneReturns source.toList offset := by
    rintro - ⟨before, after, splits, rfl⟩ inside
    have more : after ≠ [] := by
      rintro rfl
      rw [splits, List.append_nil] at inside
      exact Nat.lt_irrefl _ inside
    exact ⟨_, violationLine?_append splits, directiveLine_append whole splits more⟩
  refine ⟨lines, ⟨?_, ?_⟩, ?_⟩
  · rintro agree ⟨place, lone, inside⟩
    obtain ⟨line, stands, differs⟩ := lines _ lone.edge inside
    have counts := loneReturns_pos.mpr ⟨place, lone, Nat.lt_add_one _⟩
    rw [agree _ lone.edge inside, Option.some.injEq] at stands
    omega
  · intro none offset edge inside
    obtain ⟨line, stands, differs⟩ := lines offset edge inside
    have counts : ¬ 0 < loneReturns source.toList offset := by
      rw [loneReturns_pos]
      rintro ⟨place, lone, before⟩
      exact none ⟨place, lone, by omega⟩
    rw [stands, differs, Nat.eq_zero_of_not_pos counts, Nat.add_zero]
  · intro filename script read
    obtain ⟨outcome, parsed, rfl⟩ := Option.map_eq_some_iff.mp read
    exact ⟨⟨outcome.comments, rfl⟩, fun span => rfl⟩

/-- A line ends with a carriage return and a line feed, the next one with a carriage return alone. -/
def mixedEnds : String := "é\r\n\ruseX()"

theorem mixedEnds_lines :
    violationLine? mixedEnds 5 = some 2 ∧ directiveLine mixedEnds 5 = 3 ∧
      ¬ ∀ offset, IsEdge mixedEnds.toList offset → offset < byteLength mixedEnds.toList →
        violationLine? mixedEnds offset = some (directiveLine mixedEnds offset) := by
  obtain ⟨lines, agree, -⟩ := directive_lines_count_returns mixedEnds (by decide)
  obtain ⟨line, stands, counts⟩ := lines 5 ⟨"é\r\n\r".toList, "useX()".toList, by decide, by decide⟩ (by decide)
  have second : violationLine? mixedEnds 5 = some 2 := by decide +kernel
  obtain rfl : line = 2 := Option.some.inj (stands.symm.trans second)
  refine ⟨second, counts.trans (by decide +kernel), fun all => ?_⟩
  exact agree.mp all ⟨3, by decide, by decide⟩

end NameCheck
