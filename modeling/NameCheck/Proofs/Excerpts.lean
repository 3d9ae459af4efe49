import NameCheck.Proofs.SpanText
import NameCheck.Report.Pretty

/-!
Excerpts of the report for readers. Positions count line feeds, the lines of a text are cut at line feeds and at
carriage returns before them, and the carets below an excerpt are counted from positions. In a text of ASCII characters
the three agree: the line with the number of an offset is the line around it (`getElem?_lines`), and the carets stand
under those characters of the span that stand on that line (`underlineWidth_plain`, `underlineWidth_lines`).
-/
namespace NameCheck

open Text (byteLength)

/-! ## Lines of a text -/

namespace Text

/-- What may follow a line of a text: nothing or the end of the line. A carriage return right before a line feed belongs
to the end and not to the line. -/
inductive EndsLine : List Char → List Char → Prop where
  | text (line : List Char) : EndsLine line []
  | feed {line : List Char} (bare : line.getLast? ≠ some '\r') (rest : List Char) : EndsLine line ('\n' :: rest)
  | both (line rest : List Char) : EndsLine line ('\r' :: '\n' :: rest)

/-- The line of a text around a place, without its end, and what stands before it and behind it. -/
structure IsLineAround (source : List Char) (place : Nat) (before line rest : List Char) : Prop where
  splits : source = before ++ line ++ rest
  starts : before = [] ∨ ∃ earlier, before = earlier ++ ['\n']
  unbroken : '\n' ∉ line
  ends : EndsLine line rest
  after : before.length ≤ place
  inside : place < before.length + line.length

theorem EndsLine.tail {c : Char} {line rest : List Char} (ends : EndsLine (c :: line) rest) : EndsLine line rest := by
  cases ends with
  | text => exact .text line
  | both rest => exact .both line rest
  | feed bare rest =>
    refine .feed (fun last => bare ?_) rest
    rw [List.getLast?_cons, last, Option.getD_some]

/-- A line goes on to its end whatever stands before it, unless it is empty. -/
theorem EndsLine.append {line rest : List Char} (ends : EndsLine line rest) (filled : line ≠ []) (more : List Char) :
    EndsLine (more ++ line) rest := by
  cases ends with
  | text => exact .text _
  | both rest => exact .both _ rest
  | feed bare rest =>
    refine .feed ?_ rest
    rwa [List.getLast?_append, Option.or_of_isSome (by simpa using filled)]

theorem lines_feed (rest : List Char) : lines ('\n' :: rest) = [] :: lines rest := rfl

theorem lines_both (rest : List Char) : lines ('\r' :: '\n' :: rest) = lines ('\n' :: rest) := rfl

/-- A character that ends no line stands at the start of the first one. -/
theorem lines_other {c : Char} {rest : List Char} (feed : c ≠ '\n') (both : ¬ (c = '\r' ∧ rest.head? = some '\n')) :
    lines (c :: rest) = (c :: (lines rest).headD []) :: (lines rest).tail := by
  rw [lines]
  · split
    · rename_i none
      rw [none]
      rfl
    · rename_i some
      rw [some]
      rfl
  · rintro more rfl rfl
    exact both ⟨rfl, rfl⟩
  · exact feed

theorem exists_first_line (text : List Char) : ∃ line rest, text = line ++ rest ∧ '\n' ∉ line ∧ EndsLine line rest := by
  induction text with
  | nil => exact ⟨[], [], rfl, List.not_mem_nil, .text []⟩
  | cons c text ih =>
    by_cases feed : c = '\n'
    · exact ⟨[], c :: text, rfl, List.not_mem_nil, feed ▸ .feed (by simp) text⟩
    · obtain ⟨line, rest, rfl, unbroken, ends⟩ := ih
      by_cases both : c = '\r' ∧ (line ++ rest).head? = some '\n'
      · obtain ⟨rfl, follows⟩ := both
        obtain ⟨more, is⟩ := List.head?_eq_some_iff.mp follows
        exact ⟨[], '\r' :: (line ++ rest), rfl, List.not_mem_nil, is ▸ .both [] more⟩
      · refine ⟨c :: line, rest, rfl, by simp [unbroken, Ne.symm feed], ?_⟩
        cases ends with
        | text => exact .text _
        | both rest => exact .both _ rest
        | feed bare rest =>
          refine .feed ?_ rest
          cases line with
          | nil => simpa using both
          | cons _ _ => rwa [List.getLast?_cons_cons]

theorem head?_lines {line rest : List Char} (unbroken : '\n' ∉ line) (ends : EndsLine line rest)
    (filled : line ++ rest ≠ []) : (lines (line ++ rest)).head? = some line := by
  induction line with
  | nil =>
    cases ends with
    | text => exact absurd rfl filled
    | feed _ rest => rfl
    | both rest => rfl
  | cons c line ih =>
    rw [List.mem_cons, not_or] at unbroken
    have other : ¬ (c = '\r' ∧ (line ++ rest).head? = some '\n') := by
      rintro ⟨rfl, follows⟩
      -- A line feed right behind the carriage return ends the line, so the carriage return is no part of it.
      cases line with
      | nil =>
        cases ends with
        | text => cases follows
        | both rest => cases follows
        | feed bare rest => exact bare rfl
      | cons next line =>
        obtain rfl : next = '\n' := Option.some.inj follows
        exact unbroken.2 List.mem_cons_self
    rw [List.cons_append, lines_other (Ne.symm unbroken.1) other, List.head?_cons, Option.some.injEq]
    congr 1
    by_cases empty : line ++ rest = []
    · obtain ⟨rfl, rfl⟩ := List.append_eq_nil_iff.mp empty
      rfl
    · rw [List.headD_eq_head?_getD, ih unbroken.2 ends.tail empty, Option.getD_some]

/-- Behind a line feed the lines of a text go on with those of what is left. -/
theorem getElem?_lines_append (before rest : List Char) (number : Nat) :
    (lines (before ++ '\n' :: rest))[before.count '\n' + 1 + number]? = (lines rest)[number]? := by
  induction before with
  | nil => rw [List.nil_append, lines_feed, List.count_nil, Nat.zero_add, Nat.add_comm, List.getElem?_cons_succ]
  | cons c before ih =>
    by_cases feed : c = '\n'
    · subst feed
      rw [List.cons_append, lines_feed, List.count_cons_self, Nat.add_right_comm _ 1 number, List.getElem?_cons_succ,
        ih]
    · rw [List.cons_append, List.count_cons_of_ne feed, ← ih]
      -- A carriage return before a line feed is dropped; anything else joins a line and leaves the count as it is.
      by_cases both : c = '\r' ∧ (before ++ '\n' :: rest).head? = some '\n'
      · obtain ⟨rfl, follows⟩ := both
        obtain ⟨more, is⟩ := List.head?_eq_some_iff.mp follows
        rw [is, lines_both]
      · rw [lines_other feed both, Nat.add_right_comm _ 1 number, List.getElem?_cons_succ, List.getElem?_tail]

/-- The line around a place has the number of line feeds before it. -/
theorem getElem?_lines {source before line rest : List Char} {place : Nat}
    (around : IsLineAround source place before line rest) : (lines source)[before.count '\n']? = some line := by
  have filled : line ++ rest ≠ [] := by
    have := around.after
    have := around.inside
    rintro empty
    simp only [List.append_eq_nil_iff.mp empty, List.length_nil] at *
    omega
  have first := head?_lines around.unbroken around.ends filled
  rw [List.head?_eq_getElem?] at first
  rw [around.splits, List.append_assoc]
  rcases around.starts with rfl | ⟨earlier, rfl⟩
  · exact first
  · have later := getElem?_lines_append earlier (line ++ rest) 0
    rw [first] at later
    rw [List.count_append, List.append_assoc]
    exact later

/-- A place has a line around it, unless it is at the end of a line. -/
theorem exists_line_around {source : List Char} {place : Nat} {c : Char} (at_ : source[place]? = some c)
    (feed : c ≠ '\n') (return_ : c ≠ '\r') : ∃ before line rest, IsLineAround source place before line rest := by
  obtain ⟨inside, is⟩ := List.getElem?_eq_some_iff.mp at_
  have splits : source = source.take place ++ c :: source.drop (place + 1) := by
    rw [← is, ← List.drop_eq_getElem_cons inside, List.take_append_drop]
  obtain ⟨right, rest, rightIs, unbroken, ends⟩ := exists_first_line (c :: source.drop (place + 1))
  -- The line has the character at the place, since no line ends there.
  have filled : right ≠ [] := by
    rintro rfl
    cases ends with
    | text => cases rightIs
    | feed _ rest => exact feed (List.cons.inj rightIs).1
    | both rest => exact return_ (List.cons.inj rightIs).1
  obtain ⟨before, left, leftIs, starts, plain⟩ : ∃ before left, source.take place = before ++ left ∧
      (before = [] ∨ ∃ earlier, before = earlier ++ ['\n']) ∧ '\n' ∉ left := by
    by_cases feed : '\n' ∈ source.take place
    · obtain ⟨earlier, left, leftIs, plain⟩ := Source.last_feed feed
      exact ⟨earlier ++ ['\n'], left, by simpa using leftIs, .inr ⟨earlier, rfl⟩, plain⟩
    · exact ⟨[], _, rfl, .inl rfl, feed⟩
  have length : place = before.length + left.length := by
    rw [← List.length_append, ← leftIs, List.length_take, Nat.min_eq_left (Nat.le_of_lt inside)]
  have positive := List.length_pos_iff.mpr filled
  exact ⟨before, left ++ right, rest, {
    splits := by rw [splits, leftIs, rightIs]; simp
    starts := starts
    unbroken := by simp [plain, unbroken]
    ends := ends.append filled left
    after := by omega
    inside := by rw [List.length_append]; omega }⟩

end Text

open Text (IsLineAround)

/-! ## Positions in ASCII texts -/

/-- A text of ASCII characters. -/
def IsAscii (text : List Char) : Prop := ∀ c ∈ text, c.toNat < 128

instance (text : List Char) : Decidable (IsAscii text) := List.decidableBAll (fun c : Char => c.toNat < 128) text

theorem IsAscii.take {text : List Char} (ascii : IsAscii text) (count : Nat) : IsAscii (text.take count) :=
  fun c member => ascii c (List.mem_of_mem_take member)

theorem byteLength_ascii {text : List Char} (ascii : IsAscii text) : byteLength text = text.length := by
  induction text with
  | nil => rfl
  | cons c rest ih =>
    have small : c.toNat ≤ 127 := Nat.le_of_lt_succ (ascii c List.mem_cons_self)
    have size : c.utf8Size = 1 := Char.utf8Size_eq_one_iff.mpr (UInt32.le_iff_toNat_le.mpr small)
    rw [byteLength, size, ih fun d member => ascii d (List.mem_cons_of_mem c member), List.length_cons, Nat.add_comm]

namespace Source

variable {source : List Char}

/-- In an ASCII text the offsets are the places of characters. -/
theorem position?_ascii (ascii : IsAscii source) {offset : Nat} (fits : offset ≤ source.length) :
    position? source offset = some (positionAfter (source.take offset)) := by
  have size : byteLength (source.take offset) = offset := by
    rw [byteLength_ascii (ascii.take offset), List.length_take, Nat.min_eq_left fits]
  have found := position?_append (source.take offset) (source.drop offset)
  rwa [size, List.take_append_drop] at found

theorem positionAfter_line {place : Nat} {before line rest : List Char} (ascii : IsAscii source)
    (around : IsLineAround source place before line rest) :
    positionAfter (source.take place) = ⟨before.count '\n' + 1, place - before.length + 1⟩ := by
  have after := around.after
  have inside := around.inside
  have taken : source.take place = before ++ line.take (place - before.length) := by
    rw [around.splits, List.append_assoc, List.take_append, List.take_of_length_le after,
      List.take_append_of_le_length (by omega)]
  have plain : '\n' ∉ line.take (place - before.length) := fun member => around.unbroken (List.mem_of_mem_take member)
  have start : positionAfter before = ⟨before.count '\n' + 1, 1⟩ := by
    rcases around.starts with rfl | ⟨earlier, rfl⟩
    · rfl
    · rw [positionAfter, lastLine_feed List.not_mem_nil]
      rfl
  have width : byteLength (line.take (place - before.length)) = place - before.length := by
    have piece : IsAscii (line.take (place - before.length)) := by
      intro c member
      refine ascii c ?_
      rw [around.splits]
      simp [List.mem_of_mem_take member]
    rw [byteLength_ascii piece, List.length_take]
    omega
  rw [taken, positionAfter_append_plain before plain, start, width, Nat.add_comm 1]

theorem range?_start (ascii : IsAscii source) {span : Span} {range : Range} {before line rest : List Char}
    (located : range? source span = some range) (around : IsLineAround source span.lo before line rest) :
    range.start = ⟨before.count '\n' + 1, span.lo - before.length + 1⟩ := by
  have fits : span.lo ≤ source.length := by
    have inside := around.inside
    rw [around.splits, List.length_append, List.length_append]
    omega
  have position := position?_ascii ascii fits
  rw [positionAfter_line ascii around] at position
  rw [range?, position, Option.bind_eq_bind, Option.bind_some] at located
  obtain ⟨stop, -, is⟩ := Option.bind_eq_some_iff.mp located
  rw [← Option.some.inj is]

theorem byteLength_text {span : Span} {text : List Char} (found : text? source span = some text) :
    byteLength text = span.hi - span.lo := by
  obtain ⟨before, rest, -, starts, stops⟩ := text?_eq_some.mp found
  rw [byteLength_append] at stops
  omega

theorem exists_text_ascii (ascii : IsAscii source) {span : Span} (ordered : span.lo ≤ span.hi)
    (fits : span.hi ≤ source.length) : ∃ text, text? source span = some text := by
  have edge : ∀ offset, offset ≤ source.length → IsEdge source offset := by
    intro offset inside
    refine ⟨source.take offset, source.drop offset, (List.take_append_drop _ _).symm, ?_⟩
    rw [byteLength_ascii (ascii.take offset), List.length_take, Nat.min_eq_left inside]
  exact text?_isSome.mpr ⟨ordered, edge _ (by omega), edge _ fits⟩

/-- The characters of a span stand in its text. -/
theorem getElem?_text (ascii : IsAscii source) {span : Span} {text : List Char} (found : text? source span = some text)
    {place : Nat} (after : span.lo ≤ place) (inside : place < span.hi) : source[place]? = text[place - span.lo]? := by
  obtain ⟨before, rest, rfl, starts, stops⟩ := text?_eq_some.mp found
  have piece : ∀ first second : List Char, before ++ text ++ rest = first ++ second →
      byteLength first = first.length := by
    intro first second splits
    refine byteLength_ascii fun c member => ascii c ?_
    rw [splits]
    exact List.mem_append_left second member
  rw [piece before (text ++ rest) (List.append_assoc _ _ _)] at starts
  rw [piece (before ++ text) rest rfl, List.length_append] at stops
  rw [List.append_assoc, List.getElem?_append_right (by omega), List.getElem?_append_left (by omega), starts]

/-- A span on one line ends there, unless it ends between a carriage return and its line feed. -/
theorem span_inside_line (ascii : IsAscii source) {span : Span} {text before line rest : List Char}
    (found : text? source span = some text) (fits : span.hi ≤ source.length)
    (last : ¬ (source[span.hi - 1]? = some '\r' ∧ source[span.hi]? = some '\n'))
    (around : IsLineAround source span.lo before line rest) (plain : '\n' ∉ text) :
    span.hi ≤ before.length + line.length := by
  by_contra beyond
  have inside := around.inside
  have next : ∀ count, source[before.length + line.length + count]? = rest[count]? := by
    intro count
    rw [around.splits, ← List.length_append, List.getElem?_append_right (by omega), Nat.add_sub_cancel_left]
  have noFeed : ∀ count, before.length + line.length + count < span.hi → rest[count]? ≠ some '\n' := by
    intro count covered feed
    rw [← next count, getElem?_text ascii found (by omega) covered] at feed
    exact plain (List.mem_of_getElem? feed)
  have ends := around.ends
  cases ends with
  | text =>
    rw [around.splits] at fits
    simp only [List.append_nil, List.length_append] at fits
    omega
  | feed bare rest => exact noFeed 0 (by omega) rfl
  | both rest =>
    -- The span takes in the line feed, too, or it ends right before it.
    by_cases covered : before.length + line.length + 1 < span.hi
    · exact noFeed 1 covered rfl
    · obtain stop : span.hi = before.length + line.length + 1 := by omega
      refine last ⟨?_, ?_⟩
      · rw [stop, Nat.add_sub_cancel]
        exact next 0
      · rw [stop]
        exact next 1

end Source

/-! ## Rows of a report -/

namespace Report

/-- The excerpt of a diagnostic without colour: a line with its number and, below it, marks that start where the line
starts. -/
def excerptText (number : String) (line marks : List Char) : List Char :=
  let gutter := List.replicate number.length ' '
  gutter ++ " |\n".toList ++
    (number.toList ++ " | ".toList ++ line ++ "\n".toList) ++
    (gutter ++ " | ".toList ++ marks ++ "\n".toList) ++
    (gutter ++ " |\n".toList)

/-- What stands above the excerpt of a diagnostic. -/
def headingText (d : Diagnostic) : List Char :=
  (d.severity.name ++ "[" ++ d.ruleId ++ "]: " ++ d.message ++ "\n").toList ++
    List.replicate (toString d.line).length ' ' ++
    ("--> " ++ d.file ++ ":" ++ toString d.line ++ ":" ++ toString d.range.start.column ++ "\n").toList

/-- What stands below the excerpt of a diagnostic. -/
def closingText (d : Diagnostic) : List Char :=
  match d.suggestion with
  | none => "\n".toList
  | some suggestion =>
    List.replicate (toString d.line).length ' ' ++ (" = suggestion: " ++ suggestion ++ "\n\n").toList

/-- What a report without colour says about some of its diagnostics. -/
def sectionsText (sources : Sources) (diagnostics : List Diagnostic) : List Char :=
  diagnostics.flatMap fun d => ((diagnosticPage sources d).render false).toList

/-- The marks under a line that starts at the place `start` of a source: carets under the places from `lo` up to `stop`,
blanks under those before and nothing under those behind. -/
def IsMarks (start lo stop : Nat) (marks : List Char) : Prop :=
  ∀ column, marks[column]? =
    if start + column < lo then some ' ' else if start + column < stop then some '^' else none

theorem isMarks_replicate {start lo stop : Nat} (after : start ≤ lo) (ordered : lo ≤ stop) :
    IsMarks start lo stop (List.replicate (lo - start) ' ' ++ List.replicate (stop - lo) '^') := by
  intro column
  rw [List.getElem?_append, List.getElem?_replicate, List.getElem?_replicate, List.length_replicate]
  split_ifs <;> first | rfl | omega

theorem toList_render (page : Page) : (page.render false).toList = page.flatMap fun piece => piece.text.toList := by
  rw [Page.render, String.toList_ofList]
  rfl

/-- A report is what it says about its diagnostics, one after the other, and a summary. -/
theorem toList_renderPretty (sources : Sources) (earlier later : List Diagnostic) (d : Diagnostic) :
    (renderPretty false sources (earlier ++ d :: later)).toList =
      sectionsText sources earlier ++ ((diagnosticPage sources d).render false).toList ++
        (sectionsText sources later ++ ((summaryPage (earlier ++ d :: later)).render false).toList) := by
  have filled : (earlier ++ d :: later).isEmpty = false := by simp
  rw [renderPretty, prettyPage, filled, if_neg Bool.false_ne_true]
  simp only [toList_render, sectionsText, List.flatMap_append, List.flatMap_cons, List.flatMap_assoc, List.append_assoc]

/-- A diagnostic whose line is known is shown with an excerpt. -/
theorem toList_diagnosticPage {sources : Sources} {d : Diagnostic} {line : List Char}
    (found : sourceLine? sources d = some line) :
    ((diagnosticPage sources d).render false).toList = headingText d ++
      excerptText (toString d.line) line
        (List.replicate (d.range.start.column - 1) ' ' ++ List.replicate (underlineWidth d line) '^') ++
      closingText d := by
  rw [toList_render, diagnosticPage, found]
  cases suggests : d.suggestion with
  | none =>
    simp [headingText, closingText, suggests, excerptText, excerpt, emptyRow, repeated, severityLabel, Piece.plain,
      Piece.coloured, Piece.dimmed, Piece.strong]
  | some suggestion =>
    simp [headingText, closingText, suggests, excerptText, excerpt, emptyRow, suggestionRow, repeated, severityLabel,
      Piece.plain, Piece.coloured, Piece.dimmed, Piece.strong]

/-- The line that a diagnostic starts on is the line around its start. -/
theorem sourceLine?_around {sources : Sources} {d : Diagnostic} {source : String} {place : Nat}
    {before line rest : List Char} (known : sources.lookup d.file = some source)
    (around : IsLineAround source.toList place before line rest) (starts : d.line = before.count '\n' + 1) :
    sourceLine? sources d = some line := by
  rw [sourceLine?, starts]
  simp only [known, Option.bind_some]
  exact Text.getElem?_lines around

/-- A diagnostic on one line has a caret for each place of its span. -/
theorem underlineWidth_plain {d : Diagnostic} {source : List Char} {span : Span} {text : String} (line : List Char)
    (spans : d.range.Spans source span text) (plain : '\n' ∉ text.toList) (filled : 0 < text.utf8ByteSize) :
    underlineWidth d line = text.utf8ByteSize := by
  have sameLine : d.range.stop.line = d.range.start.line := by
    rw [spans.lines, List.count_eq_zero.mpr plain, Nat.add_zero]
  have columns := spans.sameLine plain
  have further : d.range.stop.line = d.range.start.line ∧ d.range.start.column < d.range.stop.column :=
    ⟨sameLine, by omega⟩
  simp only [underlineWidth]
  rw [if_pos further]
  omega

/-- A diagnostic that goes on to another line has carets up to the end of its first line. -/
theorem underlineWidth_lines {d : Diagnostic} {source : List Char} {span : Span} {text : String} {line : List Char}
    (spans : d.range.Spans source span text) (feed : '\n' ∈ text.toList)
    (inside : d.range.start.column - 1 < line.length) :
    underlineWidth d line = line.length - (d.range.start.column - 1) := by
  have counts := List.count_pos_iff.mpr feed
  have later := spans.lines
  have elsewhere : ¬ (d.range.stop.line = d.range.start.line ∧ d.range.start.column < d.range.stop.column) := by
    rintro ⟨sameLine, -⟩
    omega
  simp only [underlineWidth]
  rw [if_neg elsewhere]
  omega

end Report

open Report

/-- In an ASCII source, let a span start neither at a line feed nor at a carriage return and not end between the two. A
diagnostic with its positions is shown with the line around the start of the span, without its end. Below it, carets
stand just under the characters of the span if the span has no line feed, and else just under the characters from its
start to the end of the line. -/
theorem excerpt_underlines_span (script : Script) (span : Span) (ascii : IsAscii script.source.toList)
    (ordered : span.lo < span.hi) (fits : span.hi ≤ script.source.utf8ByteSize)
    (first : script.source.toList[span.lo]? ≠ some '\n' ∧ script.source.toList[span.lo]? ≠ some '\r')
    (last : ¬ (script.source.toList[span.hi - 1]? = some '\r' ∧ script.source.toList[span.hi]? = some '\n')) :
    ∃ range text before line rest, script.range? span = some range ∧ script.text? span = some text ∧
      IsLineAround script.source.toList span.lo before line rest ∧
      ('\n' ∉ text.toList → span.hi ≤ before.length + line.length) ∧
      ∀ (sources : Sources) (earlier later : List Diagnostic) (d : Diagnostic), d.range = range →
        sources.lookup d.file = some script.source →
        ∃ marks, (renderPretty false sources (earlier ++ d :: later)).toList =
            sectionsText sources earlier ++
              (headingText d ++ excerptText (toString d.line) line marks ++ closingText d) ++
              (sectionsText sources later ++ ((summaryPage (earlier ++ d :: later)).render false).toList) ∧
          ('\n' ∉ text.toList → IsMarks before.length span.lo span.hi marks) ∧
          ('\n' ∈ text.toList → IsMarks before.length span.lo (before.length + line.length) marks) := by
  have length : script.source.utf8ByteSize = script.source.toList.length := by
    rw [← byteLength_toList, byteLength_ascii ascii]
  rw [length] at fits
  obtain ⟨chars, found⟩ := Source.exists_text_ascii ascii (Nat.le_of_lt ordered) fits
  obtain ⟨text, rfl⟩ : ∃ text : String, chars = text.toList := ⟨String.ofList chars, String.toList_ofList.symm⟩
  obtain ⟨range, located, spans⟩ := Source.range?_text found
  obtain ⟨c, at_⟩ : ∃ c, script.source.toList[span.lo]? = some c :=
    ⟨_, List.getElem?_eq_getElem (Nat.lt_of_lt_of_le ordered fits)⟩
  obtain ⟨before, line, rest, around⟩ := Text.exists_line_around at_ (fun feed => first.1 (feed ▸ at_))
    fun return_ => first.2 (return_ ▸ at_)
  have inside := around.inside
  have after := around.after
  have start := Source.range?_start ascii located around
  have size : text.utf8ByteSize = span.hi - span.lo := by rw [← byteLength_toList, Source.byteLength_text found]
  refine ⟨range, text, before, line, rest, located, Script.text?_eq_some.mpr found, around,
    Source.span_inside_line ascii found fits last around, ?_⟩
  rintro sources earlier later d rfl known
  have shown := sourceLine?_around known around (by rw [Diagnostic.line, start])
  have column : d.range.start.column - 1 = span.lo - before.length := by rw [start]; rfl
  refine ⟨_, by rw [toList_renderPretty, toList_diagnosticPage shown], ?_, ?_⟩
  · intro plain
    rw [column, underlineWidth_plain line spans plain (by omega), size]
    exact isMarks_replicate after (Nat.le_of_lt ordered)
  · intro feed
    have width : line.length - (span.lo - before.length) = before.length + line.length - span.lo := by omega
    rw [underlineWidth_lines spans feed (by omega), column, width]
    exact isMarks_replicate after (Nat.le_of_lt inside)

/-- A script in which lines end with a carriage return and a line feed and a call goes on to another line. -/
def crossingCall : Script where
  filename := "a.js"
  dialect := .javaScript
  source := "b\r\n  useX(\r\n) + c"
  module := none
  errors := []
  directives := {}

/-- The call in that script, as it is reported. -/
def crossingReport : Diagnostic where
  ruleId := "H001"
  severity := .warning
  message := "Use named function"
  file := "a.js"
  range := ⟨⟨2, 3⟩, ⟨3, 2⟩⟩

theorem crossingCall_underlined :
    (∃ before line rest marks, IsLineAround crossingCall.source.toList 5 before line rest ∧
      IsMarks before.length 5 (before.length + line.length) marks ∧
      (renderPretty false [("a.js", crossingCall.source)] [crossingReport]).toList =
        headingText crossingReport ++ excerptText "2" line marks ++ closingText crossingReport ++
          ((summaryPage [crossingReport]).render false).toList) ∧
      renderPretty false [("a.js", crossingCall.source)] [crossingReport] =
        "warning[H001]: Use named function\n --> a.js:2:3\n  |\n2 |   useX(\n  |   ^^^^^\n  |\n\n" ++
          "\nFound 1 problem (0 errors, 1 warning)\n" := by
  have positions : crossingCall.range? ⟨5, 13⟩ = some crossingReport.range := by decide +kernel
  have spanned : crossingCall.text? ⟨5, 13⟩ = some "useX(\r\n)" := by decide +kernel
  obtain ⟨range, text, before, line, rest, located, found, around, -, shown⟩ :=
    excerpt_underlines_span crossingCall ⟨5, 13⟩ (by decide +kernel) (by decide) (by decide +kernel) (by decide +kernel)
      (by decide +kernel)
  obtain rfl : crossingReport.range = range := Option.some.inj (positions.symm.trans located)
  obtain rfl : "useX(\r\n)" = text := Option.some.inj (spanned.symm.trans found)
  obtain ⟨marks, report, -, underlined⟩ := shown [("a.js", crossingCall.source)] [] [] crossingReport rfl rfl
  exact ⟨⟨before, line, rest, marks, around, underlined (by decide), report⟩, by decide +kernel⟩

end NameCheck
