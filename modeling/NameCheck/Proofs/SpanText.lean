import Mathlib.Algebra.GroupWithZero.Nat
import NameCheck.Proofs.Positions

/-!
The text of a span and the positions of its ends. A span has a text just if its ends are edges of characters of the
source (`text?_eq_some`). The text then tells how far the position of the end is from that of the start
(`positionAfter_append_plain`, `positionAfter_append_lines`), and the position of the start tells where the span starts
(`offsetOf_positionAfter`).
-/
namespace NameCheck

open Text (byteLength takeBytes? dropBytes?)

/-! ## Bytes -/

theorem byteLength_toList (text : String) : byteLength text.toList = text.utf8ByteSize := by
  have count : ∀ cs : List Char, byteLength cs = (String.ofList cs).utf8ByteSize := by
    intro cs
    induction cs with
    | nil => rfl
    | cons c rest ih =>
      rw [byteLength, ih, ← List.singleton_append, String.ofList_append, String.utf8ByteSize_append]
      simp
  rw [count, String.ofList_toList]

/-- The edges of characters are the offsets at which a text can be parted into two. -/
theorem isEdge_iff_isValid (source : String) (offset : Nat) :
    IsEdge source.toList offset ↔ (⟨offset⟩ : String.Pos.Raw).IsValid source := by
  rw [String.Pos.Raw.isValid_iff_exists_append]
  constructor
  · rintro ⟨before, after, splits, rfl⟩
    refine ⟨String.ofList before, String.ofList after, ?_, ?_⟩
    · rw [← String.ofList_append, ← splits, String.ofList_toList]
    · rw [String.Pos.Raw.ext_iff, String.byteIdx_rawEndPos, ← byteLength_toList, String.toList_ofList]
  · rintro ⟨before, after, rfl, is⟩
    refine ⟨before.toList, after.toList, String.toList_append, ?_⟩
    rw [byteLength_toList, ← String.byteIdx_rawEndPos, ← is]

/-- A part of a text holds the bytes between its ends. -/
theorem toByteArray_between {source text : String} {before after : List Char}
    (splits : source.toList = before ++ text.toList ++ after) :
    text.toByteArray = source.toByteArray.extract (byteLength before) (byteLength (before ++ text.toList)) := by
  have parts : source = String.ofList before ++ text ++ String.ofList after := by
    rw [← String.toList_inj, splits, String.toList_append, String.toList_append, String.toList_ofList,
      String.toList_ofList]
  have starts : byteLength before = (String.ofList before).toByteArray.size := by
    rw [String.size_toByteArray, ← byteLength_toList, String.toList_ofList]
  have stops : byteLength (before ++ text.toList) = (String.ofList before ++ text).toByteArray.size := by
    rw [String.size_toByteArray, ← byteLength_toList, String.toList_append, String.toList_ofList]
  rw [parts, starts, stops, String.toByteArray_append, ByteArray.extract_append_size_left, String.toByteArray_append]
  exact (ByteArray.extract_append_eq_right rfl ByteArray.size_append).symm

/-! ## Texts of spans -/

/-- What is left of a text starts where a character of it ends. -/
theorem dropBytes?_eq_some {offset : Nat} {text after : List Char} :
    dropBytes? offset text = some after ↔ ∃ before, text = before ++ after ∧ byteLength before = offset := by
  constructor
  · intro dropped
    fun_induction dropBytes? offset text with
    | case1 text =>
      obtain rfl := Option.some.inj dropped
      exact ⟨[], rfl, rfl⟩
    | case2 => cases dropped
    | case3 offset c rest fits ih =>
      obtain ⟨before, rfl, is⟩ := ih dropped
      refine ⟨c :: before, rfl, ?_⟩
      rw [byteLength, is]
      omega
    | case4 => cases dropped
  · rintro ⟨before, rfl, rfl⟩
    induction before with
    | nil => cases after <;> rfl
    | cons c before ih =>
      obtain ⟨size, is⟩ : ∃ size, c.utf8Size = size + 1 := ⟨c.utf8Size - 1, by have := c.utf8Size_pos; omega⟩
      have total : byteLength (c :: before) = byteLength before + size + 1 := by simp only [byteLength]; omega
      have rest : byteLength before + size + 1 - (size + 1) = byteLength before := by omega
      rw [total, List.cons_append, dropBytes?, if_pos (by omega), is, rest, ih]

namespace Source

variable {source : List Char} {span : Span}

/-- The text of a span is what stands between its ends. -/
theorem text?_eq_some {text : List Char} :
    text? source span = some text ↔ ∃ before after, source = before ++ text ++ after ∧ byteLength before = span.lo ∧
      byteLength (before ++ text) = span.hi := by
  constructor
  · intro found
    rw [text?, Option.ite_none_right_eq_some] at found
    obtain ⟨ordered, found⟩ := found
    obtain ⟨tail, dropped, taken⟩ := Option.bind_eq_some_iff.mp found
    obtain ⟨before, rfl, starts⟩ := dropBytes?_eq_some.mp dropped
    obtain ⟨⟨after, rfl⟩, size⟩ := takeBytes?_eq_some taken
    refine ⟨before, after, (List.append_assoc _ _ _).symm, starts, ?_⟩
    rw [byteLength_append]
    omega
  · rintro ⟨before, after, rfl, starts, stops⟩
    rw [byteLength_append] at stops
    have size : span.hi - span.lo = byteLength text := by omega
    have dropped := dropBytes?_eq_some.mpr ⟨before, List.append_assoc before text after, starts⟩
    rw [text?, if_pos (by omega), dropped, Option.bind_eq_bind, Option.bind_some, size, takeBytes?_append]

/-- A span has a text just if its ends are edges of characters. -/
theorem text?_isSome : (∃ text, text? source span = some text) ↔
    span.lo ≤ span.hi ∧ IsEdge source span.lo ∧ IsEdge source span.hi := by
  constructor
  · rintro ⟨text, found⟩
    obtain ⟨before, after, rfl, starts, stops⟩ := text?_eq_some.mp found
    refine ⟨?_, ⟨before, text ++ after, List.append_assoc _ _ _, starts.symm⟩, ⟨before ++ text, after, rfl, stops.symm⟩⟩
    rw [byteLength_append] at stops
    omega
  · rintro ⟨ordered, ⟨before, rest, splits, starts⟩, ⟨first, after, is, stops⟩⟩
    obtain ⟨text, rfl⟩ := splits_between (splits.symm.trans is) (by omega)
    exact ⟨text, text?_eq_some.mpr ⟨before, after, is, starts.symm, stops.symm⟩⟩

/-! ## Positions after texts -/

theorem lastLine_append {more : List Char} (plain : '\n' ∉ more) (before : List Char) :
    lastLine (before ++ more) = lastLine before ++ more := by
  have all : ∀ c ∈ more.reverse, (c != '\n') = true := by
    intro c member
    rw [bne_iff_ne]
    rintro rfl
    exact plain (List.mem_reverse.mp member)
  rw [lastLine, lastLine, List.reverse_append, List.takeWhile_append_of_pos all, List.reverse_append,
    List.reverse_reverse]

theorem lastLine_feed {last : List Char} (plain : '\n' ∉ last) (before : List Char) :
    lastLine (before ++ '\n' :: last) = last := by
  have split : before ++ '\n' :: last = (before ++ ['\n']) ++ last := by simp
  rw [split, lastLine_append plain, lastLine]
  simp

/-- A text with line feeds ends with what stands behind the last of them. -/
theorem last_feed {text : List Char} (feed : '\n' ∈ text) :
    ∃ lines last, text = lines ++ '\n' :: last ∧ '\n' ∉ last := by
  obtain ⟨last, lines, is, plain⟩ := List.eq_append_cons_of_mem (List.mem_reverse.mpr feed)
  refine ⟨lines.reverse, last.reverse, ?_, by simpa using plain⟩
  rw [← List.reverse_reverse text, is]
  simp

/-- A text without line feeds leads on in the line. -/
theorem positionAfter_append_plain (before : List Char) {text : List Char} (plain : '\n' ∉ text) :
    positionAfter (before ++ text) =
      ⟨(positionAfter before).line, (positionAfter before).column + byteLength text⟩ := by
  simp only [positionAfter, Position.mk.injEq]
  refine ⟨?_, ?_⟩
  · rw [List.count_append, List.count_eq_zero.mpr plain, Nat.add_zero]
  · rw [lastLine_append plain, byteLength_append]
    omega

/-- Lines lead to a later line, and what stands behind the last line feed to its column. -/
theorem positionAfter_append_lines (before lines : List Char) {last : List Char} (plain : '\n' ∉ last) :
    positionAfter (before ++ (lines ++ '\n' :: last)) =
      ⟨(positionAfter before).line + (lines ++ '\n' :: last).count '\n', byteLength last + 1⟩ := by
  simp only [positionAfter, Position.mk.injEq]
  refine ⟨?_, ?_⟩
  · rw [List.count_append]
    omega
  · rw [← List.append_assoc, lastLine_feed plain]

/-! ## Offsets of positions -/

/-- The lines of a text, each with a line feed behind it. -/
def feedLines (text : List Char) : List (List Char) := (text.splitOn '\n').map (· ++ ['\n'])

/-- The lines of a text that a line feed ends, each with its line feed. -/
def endedLines (text : List Char) : List (List Char) := (feedLines text).dropLast

/-- The offset of a position: the bytes of the lines before its line and those before its column. -/
def offsetOf (source : List Char) (position : Position) : Nat :=
  (((endedLines source).take (position.line - 1)).map byteLength).sum + (position.column - 1)

theorem feedLines_append (lines rest : List Char) :
    feedLines (lines ++ '\n' :: rest) = feedLines lines ++ feedLines rest := by
  rw [feedLines, List.splitOn_append_cons_self, List.map_append]
  rfl

/-- The lines of a start of a text that a line feed ends are the first ones of the text. -/
theorem endedLines_append (lines rest : List Char) :
    endedLines (lines ++ '\n' :: rest) = feedLines lines ++ endedLines rest := by
  have filled : feedLines rest ≠ [] := fun empty => List.splitOn_ne_nil '\n' rest (List.map_eq_nil_iff.mp empty)
  rw [endedLines, feedLines_append, List.dropLast_append_of_ne_nil filled]
  rfl

theorem feedLines_cons {c : Char} (other : c ≠ '\n') (rest : List Char) :
    ∃ first more, feedLines rest = first :: more ∧ feedLines (c :: rest) = (c :: first) :: more := by
  obtain ⟨first, more, is⟩ := List.exists_cons_of_ne_nil (List.splitOn_ne_nil '\n' rest)
  refine ⟨first ++ ['\n'], more.map (· ++ ['\n']), ?_, ?_⟩
  · rw [feedLines, is, List.map_cons]
  · rw [feedLines, List.splitOn_cons_eq_if_modifyHead, if_neg (by simpa using other), is]
    rfl

theorem length_feedLines (text : List Char) : (feedLines text).length = text.count '\n' + 1 := by
  induction text with
  | nil => rfl
  | cons c rest ih =>
    by_cases feed : c = '\n'
    · rw [feed, ← List.nil_append ('\n' :: rest), feedLines_append, List.length_append, ih, List.nil_append,
        List.count_cons_self]
      exact Nat.add_comm 1 _
    · obtain ⟨first, more, is, are⟩ := feedLines_cons feed rest
      rw [are, List.length_cons, List.count_cons_of_ne feed, ← ih, is, List.length_cons]

/-- The lines of a text have its bytes and those of a last line feed. -/
theorem byteLength_feedLines (text : List Char) : ((feedLines text).map byteLength).sum = byteLength text + 1 := by
  induction text with
  | nil => rfl
  | cons c rest ih =>
    rw [byteLength]
    by_cases feed : c = '\n'
    · have size : '\n'.utf8Size = 1 := rfl
      rw [feed, ← List.nil_append ('\n' :: rest), feedLines_append, List.map_append, List.sum_append, ih, size]
      exact (Nat.add_assoc 1 _ 1).symm
    · obtain ⟨first, more, is, are⟩ := feedLines_cons feed rest
      rw [is, List.map_cons, List.sum_cons] at ih
      rw [are, List.map_cons, List.sum_cons, byteLength]
      omega

/-- The position after a start of a text determines how many bytes the start has. -/
theorem offsetOf_positionAfter (before after : List Char) :
    offsetOf (before ++ after) (positionAfter before) = byteLength before := by
  rw [offsetOf]
  by_cases feed : '\n' ∈ before
  · obtain ⟨lines, last, rfl, plain⟩ := last_feed feed
    have position : positionAfter (lines ++ '\n' :: last) =
        ⟨(feedLines lines).length + 1, byteLength last + 1⟩ := by
      rw [positionAfter, lastLine_feed plain, length_feedLines, List.count_append, List.count_cons_self,
        List.count_eq_zero.mpr plain]
    have size : '\n'.utf8Size = 1 := rfl
    rw [position, Nat.add_sub_cancel, Nat.add_sub_cancel, List.append_assoc, List.cons_append, endedLines_append,
      List.take_left, byteLength_feedLines, byteLength_append, byteLength, size, Nat.add_assoc]
  · have position := positionAfter_append_plain [] feed
    rw [List.nil_append] at position
    rw [position]
    simp [positionAfter, lastLine, byteLength]

/-- One position comes before another: on an earlier line, or on the same line and further left. -/
def Position.Before (first second : Position) : Prop :=
  first.line < second.line ∨ first.line = second.line ∧ first.column < second.column

theorem positionAfter_before {text : List Char} (filled : text ≠ []) (before : List Char) :
    (positionAfter before).Before (positionAfter (before ++ text)) := by
  by_cases feed : '\n' ∈ text
  · obtain ⟨lines, last, rfl, plain⟩ := last_feed feed
    have counts := List.count_pos_iff.mpr feed
    rw [positionAfter_append_lines before lines plain]
    exact .inl (by simp only; omega)
  · have bytes : byteLength text ≠ 0 := fun none => filled (byteLength_eq_zero none)
    rw [positionAfter_append_plain before feed]
    exact .inr ⟨rfl, by simp only; omega⟩

/-- The positions of the ends of a span that holds a text. -/
structure Range.Spans (source : List Char) (span : Span) (text : String) (range : Range) : Prop where
  lines : range.stop.line = range.start.line + text.toList.count '\n'
  sameLine : '\n' ∉ text.toList → range.stop.column = range.start.column + text.utf8ByteSize
  laterLine : '\n' ∈ text.toList → ∃ lines last, text.toList = lines ++ '\n' :: last ∧ '\n' ∉ last ∧
    range.stop.column = 1 + byteLength last
  start : span.lo = offsetOf source range.start
  forward : span.lo < span.hi → range.start.Before range.stop

theorem range?_text {source : List Char} {span : Span} {text : String}
    (found : text? source span = some text.toList) :
    ∃ range, range? source span = some range ∧ range.Spans source span text := by
  obtain ⟨before, after, rfl, starts, stops⟩ := text?_eq_some.mp found
  have first : position? (before ++ text.toList ++ after) span.lo = some (positionAfter before) := by
    rw [← starts, List.append_assoc, position?_append]
  have second : position? (before ++ text.toList ++ after) span.hi = some (positionAfter (before ++ text.toList)) := by
    rw [← stops, position?_append]
  refine ⟨⟨positionAfter before, positionAfter (before ++ text.toList)⟩, by rw [range?, first, second]; rfl, ?_⟩
  exact {
    lines := by simp only [positionAfter, List.count_append]; omega
    sameLine := fun plain => by rw [positionAfter_append_plain before plain, byteLength_toList]
    laterLine := fun feed => by
      obtain ⟨lines, last, is, plain⟩ := last_feed feed
      refine ⟨lines, last, is, plain, ?_⟩
      rw [is, positionAfter_append_lines before lines plain]
      exact Nat.add_comm _ 1
    start := by rw [List.append_assoc, offsetOf_positionAfter, starts]
    forward := fun shorter => by
      refine positionAfter_before (fun empty => ?_) before
      rw [empty, List.append_nil] at stops
      omega }

/-- Different edges of characters have different positions. -/
theorem position?_injective {source : List Char} {first second : Nat} (edge : IsEdge source first)
    (other : IsEdge source second) (same : position? source first = position? source second) : first = second := by
  obtain ⟨before, after, splits, rfl⟩ := edge
  obtain ⟨pre, post, again, rfl⟩ := other
  have positions : positionAfter before = positionAfter pre := by
    rw [splits, position?_append, ← splits, again, position?_append] at same
    exact Option.some.inj same
  calc byteLength before
    _ = offsetOf source (positionAfter before) := by rw [splits, offsetOf_positionAfter]
    _ = offsetOf source (positionAfter pre) := by rw [positions]
    _ = byteLength pre := by rw [again, offsetOf_positionAfter]

end Source

theorem Script.text?_eq_some {script : Script} {span : Span} {text : String} :
    script.text? span = some text ↔ Source.text? script.source.toList span = some text.toList := by
  rw [Script.text?, Option.map_eq_some_iff]
  constructor
  · rintro ⟨chars, found, rfl⟩
    rw [found, String.toList_ofList]
  · intro found
    exact ⟨text.toList, found, String.ofList_toList⟩

/-- A span of a source has a text just if its ends lie in the source, in order and at edges of characters. It is the
text of the bytes between them. The ends then have positions, which the text sets apart, and the position of the start
determines its offset, so that no two edges of characters have the same position. -/
theorem span_text_sets_range (script : Script) (span : Span) :
    ((∃ text, script.text? span = some text) ↔
      span.lo ≤ span.hi ∧ span.hi ≤ script.source.utf8ByteSize ∧
        (⟨span.lo⟩ : String.Pos.Raw).IsValid script.source ∧ (⟨span.hi⟩ : String.Pos.Raw).IsValid script.source) ∧
      (∀ text, script.text? span = some text →
        text.toByteArray = script.source.toByteArray.extract span.lo span.hi ∧
          ∃ range, script.range? span = some range ∧ range.Spans script.source.toList span text) ∧
      ∀ first second, (⟨first⟩ : String.Pos.Raw).IsValid script.source →
        (⟨second⟩ : String.Pos.Raw).IsValid script.source → first ≠ second →
          Source.position? script.source.toList first ≠ Source.position? script.source.toList second := by
  simp only [← isEdge_iff_isValid]
  refine ⟨⟨?_, ?_⟩, ?_, ?_⟩
  · rintro ⟨text, found⟩
    obtain ⟨ordered, starts, stops⟩ := Source.text?_isSome.mp ⟨_, Script.text?_eq_some.mp found⟩
    exact ⟨ordered, byteLength_toList script.source ▸ stops.le, starts, stops⟩
  · rintro ⟨ordered, -, starts, stops⟩
    obtain ⟨text, found⟩ := Source.text?_isSome.mpr ⟨ordered, starts, stops⟩
    exact ⟨String.ofList text, Script.text?_eq_some.mpr (by rw [found, String.toList_ofList])⟩
  · intro text found
    have found := Script.text?_eq_some.mp found
    refine ⟨?_, Source.range?_text found⟩
    obtain ⟨before, after, splits, starts, stops⟩ := Source.text?_eq_some.mp found
    rw [← starts, ← stops]
    exact toByteArray_between splits
  · intro first second edge other differ same
    exact differ (Source.position?_injective edge other same)

/-- A script with characters of two and three bytes on two lines. -/
def twoLines : Script where
  filename := "a.js"
  dialect := .javaScript
  source := "é→\nüx"
  module := none
  errors := []
  directives := {}

/-- A span from the second character to the first one of the next line, and the edges of the character it ends with. -/
theorem twoLines_span :
    twoLines.text? ⟨2, 8⟩ = some "→\nü" ∧ twoLines.text? ⟨2, 7⟩ = none ∧
      (∃ range, twoLines.range? ⟨2, 8⟩ = some range ∧ range.Spans twoLines.source.toList ⟨2, 8⟩ "→\nü" ∧
        range = ⟨⟨1, 3⟩, ⟨2, 3⟩⟩) ∧
      Source.position? twoLines.source.toList 6 ≠ Source.position? twoLines.source.toList 8 := by
  have found : twoLines.text? ⟨2, 8⟩ = some "→\nü" := by decide +kernel
  have positions : twoLines.range? ⟨2, 8⟩ = some ⟨⟨1, 3⟩, ⟨2, 3⟩⟩ := by decide +kernel
  obtain ⟨-, ranges, differ⟩ := span_text_sets_range twoLines ⟨2, 8⟩
  obtain ⟨-, range, is, spans⟩ := ranges _ found
  have start : (⟨6⟩ : String.Pos.Raw).IsValid twoLines.source :=
    (isEdge_iff_isValid _ _).mp ⟨"é→\n".toList, "üx".toList, by decide, by decide⟩
  have stop : (⟨8⟩ : String.Pos.Raw).IsValid twoLines.source :=
    (isEdge_iff_isValid _ _).mp ⟨"é→\nü".toList, "x".toList, by decide, by decide⟩
  refine ⟨found, by decide +kernel, ⟨range, is, spans, ?_⟩, differ 6 8 start stop (by decide)⟩
  exact Option.some.inj (is.symm.trans positions)

end NameCheck
