import Mathlib.Data.List.Basic
import NameCheck.Report.Pretty

/-!
Colour adds codes to a report and nothing else. Taking codes out of a text goes piece by piece, as long as the pieces hold
no escape character of their own (`withoutCodes_piece`), and all pieces of a report come from texts that hold none if its
diagnostics and sources do not (`uncoded_prettyPage`).
-/
namespace NameCheck.Report

/-! ## Codes -/

/-- A text without its codes, from inside a code or from outside. A code starts with an escape character and an opening
bracket and goes on up to the next `m`; what has no `m` behind it is no code. -/
def withoutCodesFrom : (inside : Bool) → List Char → List Char
  | _, [] => []
  | true, c :: rest => withoutCodesFrom (c != 'm') rest
  | false, c :: rest =>
    if c = escapeChar ∧ rest.head? = some '[' ∧ 'm' ∈ rest then withoutCodesFrom true rest
    else c :: withoutCodesFrom false rest

/-- A text without its codes. -/
def withoutCodes (text : List Char) : List Char := withoutCodesFrom false text

theorem withoutCodes_append {text : List Char} (plain : escapeChar ∉ text) (rest : List Char) :
    withoutCodes (text ++ rest) = text ++ withoutCodes rest := by
  induction text with
  | nil => rfl
  | cons c text ih =>
    obtain ⟨other, plain⟩ := List.ne_and_not_mem_of_not_mem_cons plain
    rw [List.cons_append, withoutCodes, withoutCodesFrom, if_neg fun code => other code.1.symm]
    exact congrArg (c :: ·) (ih plain)

theorem withoutCodesFrom_inside {codes : List Char} (open_ : 'm' ∉ codes) (rest : List Char) :
    withoutCodesFrom true (codes ++ 'm' :: rest) = withoutCodes rest := by
  induction codes with
  | nil => rfl
  | cons c codes ih =>
    obtain ⟨other, open_⟩ := List.ne_and_not_mem_of_not_mem_cons open_
    have on : (c != 'm') = true := bne_iff_ne.mpr other.symm
    rw [List.cons_append, withoutCodesFrom, on, ih open_]

theorem withoutCodes_code {codes : List Char} (open_ : 'm' ∉ codes) (rest : List Char) :
    withoutCodes (escapeChar :: '[' :: (codes ++ 'm' :: rest)) = withoutCodes rest := by
  have bracket : 'm' ∉ '[' :: codes := List.not_mem_cons_of_ne_of_not_mem (by decide) open_
  rw [withoutCodes, withoutCodesFrom, if_pos ⟨rfl, rfl, by simp⟩]
  exact withoutCodesFrom_inside bracket rest

/-! ## Pieces -/

theorem codes_open (style : Style) : 'm' ∉ style.codes.toList := by
  obtain ⟨weight, colour⟩ := style
  rcases colour with _ | colour
  · cases weight <;> decide
  · cases weight <;> cases colour <;> decide

theorem resume_eq (style : Style) {text : List Char} (plain : escapeChar ∉ text) : style.resume text = text := by
  fun_induction Style.resume style text with
  | case1 rest ih => exact absurd List.mem_cons_self plain
  | case2 c rest other ih => rw [ih (List.ne_and_not_mem_of_not_mem_cons plain).2]
  | case3 => rfl

/-- Without its codes, a piece in colour is the piece without colour. -/
theorem withoutCodes_piece {piece : Piece} (plain : escapeChar ∉ piece.text.toList) (rest : List Char) :
    withoutCodes (piece.chars true ++ rest) = piece.chars false ++ withoutCodes rest := by
  obtain ⟨text, style⟩ := piece
  cases style with
  | none => exact withoutCodes_append plain rest
  | some style =>
    have coloured : Piece.chars true ⟨text, some style⟩ ++ rest =
        escapeChar :: '[' :: (style.codes.toList ++ 'm' :: (text.toList ++ (escapeChar :: '[' :: (['0'] ++ 'm' :: rest)))) := by
      simp [Piece.chars, Style.opening, resume_eq style plain, reset]
    rw [coloured, withoutCodes_code (codes_open style), withoutCodes_append plain, withoutCodes_code (by decide)]
    rfl

/-! ## Pages -/

/-- A text without escape characters. -/
def Uncoded (text : String) : Prop := escapeChar ∉ text.toList

instance (text : String) : Decidable (Uncoded text) := inferInstanceAs (Decidable (¬ _))

/-- A page without escape characters in its texts. -/
def Page.Uncoded (page : Page) : Prop := ∀ piece ∈ page, Report.Uncoded piece.text

theorem withoutCodes_page {page : Page} (uncoded : page.Uncoded) :
    withoutCodes (page.render true).toList = (page.render false).toList := by
  rw [Page.render, Page.render, String.toList_ofList, String.toList_ofList]
  induction page with
  | nil => rfl
  | cons piece page ih =>
    obtain ⟨plain, others⟩ := List.forall_mem_cons.mp uncoded
    rw [List.flatMap_cons, List.flatMap_cons, withoutCodes_piece plain, ih others]

@[simp] theorem uncoded_append (first second : String) : Uncoded (first ++ second) ↔ Uncoded first ∧ Uncoded second := by
  simp [Uncoded]

@[simp] theorem uncoded_repr (n : Nat) : Uncoded n.repr := by
  intro member
  rw [Nat.toList_repr] at member
  have digit := Nat.isDigit_of_mem_toDigits (by decide) (by decide) member
  exact absurd digit (by decide)

theorem uncoded_repeated (n : Nat) {c : Char} (other : c ≠ escapeChar) : Uncoded (repeated n c) := by
  intro member
  rw [repeated, String.toList_ofList, List.mem_replicate] at member
  exact other member.2.symm

theorem uncoded_counted (n : Nat) {noun : String} (plain : Uncoded noun) : Uncoded (counted n noun) := by
  have blank : Uncoded " " := by decide
  have more : Uncoded "s" := by decide
  rw [counted]
  split <;> simp [plain, blank, more]

/-- A diagnostic without escape characters in its texts. -/
structure UncodedDiagnostic (d : Diagnostic) : Prop where
  ruleId : Uncoded d.ruleId
  message : Uncoded d.message
  file : Uncoded d.file
  suggestion : ∀ suggestion, d.suggestion = some suggestion → Uncoded suggestion

/-- A line of a text holds characters of the text. -/
theorem lines_subset {text line : List Char} (member : line ∈ Text.lines text) : line ⊆ text := by
  fun_induction Text.lines text generalizing line with
  | case1 => cases member
  | case2 rest ih =>
    rcases List.mem_cons.mp member with rfl | later
    · exact List.nil_subset _
    · exact List.Subset.trans (ih later) (List.Subset.trans (List.subset_cons_self _ _) (List.subset_cons_self _ _))
  | case3 rest ih =>
    rcases List.mem_cons.mp member with rfl | later
    · exact List.nil_subset _
    · exact List.Subset.trans (ih later) (List.subset_cons_self _ _)
  | case4 c rest _ _ none ih =>
    obtain rfl := List.mem_singleton.mp member
    simp
  | case5 c rest _ _ first more split ih =>
    rw [split] at ih
    rcases List.mem_cons.mp member with rfl | later
    · exact List.cons_subset_cons c (ih List.mem_cons_self)
    · exact List.Subset.trans (ih (List.mem_cons_of_mem first later)) (List.subset_cons_self _ _)

theorem uncoded_sourceLine {sources : Sources} (plain : ∀ source ∈ sources, Uncoded source.2) {d : Diagnostic}
    {line : List Char} (found : sourceLine? sources d = some line) : escapeChar ∉ line := by
  rw [sourceLine?] at found
  split at found
  · cases found
  · obtain ⟨source, known, is⟩ := Option.bind_eq_some_iff.mp found
    obtain ⟨before, after, rfl, -⟩ := List.lookup_eq_some_iff.mp known
    have uncoded : Uncoded source := plain (d.file, source) (by simp)
    intro member
    exact uncoded (lines_subset (List.mem_of_getElem? is) member)

theorem uncoded_pages {first second : Page} : Page.Uncoded (first ++ second) ↔ first.Uncoded ∧ second.Uncoded :=
  List.forall_mem_append

theorem uncoded_excerpt {gutter : String} (blank : Uncoded gutter) (d : Diagnostic) {line : List Char}
    (plain : escapeChar ∉ line) : (excerpt gutter d line).Uncoded := by
  have row : (emptyRow gutter).Uncoded := by
    simp +decide [Page.Uncoded, emptyRow, Piece.plain, Piece.coloured, blank]
  have shown : Uncoded (String.ofList line) := by rwa [Uncoded, String.toList_ofList]
  have indent := uncoded_repeated (d.range.start.column - 1) (show ' ' ≠ escapeChar by decide)
  have carets := uncoded_repeated (underlineWidth d line) (show '^' ≠ escapeChar by decide)
  rw [excerpt, uncoded_pages, uncoded_pages]
  refine ⟨⟨row, ?_⟩, row⟩
  simp +decide [Page.Uncoded, Piece.plain, Piece.coloured, blank, shown, indent, carets]

theorem uncoded_suggestionRow {gutter suggestion : String} (blank : Uncoded gutter) (plain : Uncoded suggestion) :
    (suggestionRow gutter suggestion).Uncoded := by
  simp +decide [Page.Uncoded, suggestionRow, Piece.plain, Piece.coloured, blank, plain]

theorem uncoded_diagnosticPage {sources : Sources} (known : ∀ source ∈ sources, Uncoded source.2) {d : Diagnostic}
    (plain : UncodedDiagnostic d) : (diagnosticPage sources d).Uncoded := by
  have blank : ∀ width, Uncoded (repeated width ' ') := fun width => uncoded_repeated width (by decide)
  have label : Uncoded d.severity.name := by cases d.severity <;> decide
  rw [diagnosticPage, uncoded_pages, uncoded_pages, uncoded_pages]
  refine ⟨⟨⟨?_, ?_⟩, ?_⟩, ?_⟩
  · simp +decide [Page.Uncoded, severityLabel, Piece.strong, Piece.plain, Piece.coloured, Piece.dimmed, label, blank,
      plain.ruleId, plain.message, plain.file]
  · cases found : sourceLine? sources d with
    | none => nofun
    | some line => exact uncoded_excerpt (blank _) d (uncoded_sourceLine known found)
  · cases suggests : d.suggestion with
    | none => nofun
    | some suggestion => exact uncoded_suggestionRow (blank _) (plain.suggestion suggestion suggests)
  · simp +decide [Page.Uncoded]

theorem uncoded_summaryPage (diagnostics : List Diagnostic) : (summaryPage diagnostics).Uncoded := by
  have errors := uncoded_counted (Tally.of diagnostics).errors (show Uncoded "error" by decide)
  have warnings := uncoded_counted (Tally.of diagnostics).warnings (show Uncoded "warning" by decide)
  have noun : Uncoded (if diagnostics.length = 1 then " problem (" else " problems (") := by split <;> decide
  simp +decide [Page.Uncoded, summaryPage, Piece.plain, Piece.coloured, Piece.bold, errors, warnings, noun]

theorem uncoded_prettyPage {sources : Sources} (known : ∀ source ∈ sources, Uncoded source.2)
    {diagnostics : List Diagnostic} (plain : ∀ d ∈ diagnostics, UncodedDiagnostic d) :
    (prettyPage sources diagnostics).Uncoded := by
  rw [prettyPage]
  split
  · nofun
  · rw [uncoded_pages]
    refine ⟨fun piece member => ?_, uncoded_summaryPage diagnostics⟩
    obtain ⟨d, inside, within⟩ := List.mem_flatMap.mp member
    exact uncoded_diagnosticPage known (plain d inside) piece within

theorem render_uncoded {page : Page} (uncoded : page.Uncoded) : Uncoded (page.render false) := by
  rw [Uncoded, Page.render, String.toList_ofList]
  intro member
  obtain ⟨piece, inside, within⟩ := List.mem_flatMap.mp member
  exact uncoded piece inside within

/-- A report in colour starts with the label of a severity, in its style. -/
theorem head?_renderPretty (sources : Sources) (d : Diagnostic) (rest : List Diagnostic) :
    (renderPretty true sources (d :: rest)).toList.head? = some escapeChar := by
  rw [renderPretty, Page.render, String.toList_ofList]
  rfl

/-- If diagnostics and sources hold no escape characters, the report for readers in colour is, without its codes, the
report without colour. The latter holds no escape characters, and the former does unless there is nothing to report. -/
theorem colour_adds_only_codes (sources : Sources) (known : ∀ source ∈ sources, Uncoded source.2)
    (diagnostics : List Diagnostic) (plain : ∀ d ∈ diagnostics, UncodedDiagnostic d) :
    withoutCodes (renderPretty true sources diagnostics).toList = (renderPretty false sources diagnostics).toList ∧
      Uncoded (renderPretty false sources diagnostics) ∧
      (Uncoded (renderPretty true sources diagnostics) ↔ diagnostics = []) := by
  have uncoded := uncoded_prettyPage known plain
  refine ⟨withoutCodes_page uncoded, render_uncoded uncoded, ?_⟩
  cases diagnostics with
  | nil =>
    have empty : renderPretty true sources [] = "" := rfl
    rw [empty]
    exact iff_of_true (by decide) rfl
  | cons d rest =>
    refine iff_of_false (fun none => none ?_) (List.cons_ne_nil d rest)
    exact List.mem_of_mem_head? (head?_renderPretty sources d rest)

/-- Texts that would close a code, if there were one. -/
def bracketedReport : Diagnostic where
  ruleId := "H001"
  severity := .warning
  message := "Use [31m named function"
  file := "m[0m.js"
  range := ⟨⟨1, 3⟩, ⟨1, 9⟩⟩
  suggestion := some "[m"

theorem bracketedReport_uncoloured :
    UncodedDiagnostic bracketedReport ∧
      withoutCodes (renderPretty true [("m[0m.js", "m useX()[0m\n")] [bracketedReport]).toList =
        (renderPretty false [("m[0m.js", "m useX()[0m\n")] [bracketedReport]).toList ∧
      renderPretty false [("m[0m.js", "m useX()[0m\n")] [bracketedReport] =
        "warning[H001]: Use [31m named function\n --> m[0m.js:1:3\n  |\n1 | m useX()[0m\n  |   ^^^^^^\n  |\n" ++
          "  = suggestion: [m\n\n\nFound 1 problem (0 errors, 1 warning)\n" := by
  have plain : UncodedDiagnostic bracketedReport :=
    ⟨by decide, by decide, by decide, fun suggestion is => Option.some.inj is ▸ by decide⟩
  have known : ∀ source ∈ [("m[0m.js", "m useX()[0m\n")], Uncoded source.2 := by decide
  obtain ⟨same, -⟩ := colour_adds_only_codes _ known [bracketedReport] (by simpa using plain)
  exact ⟨plain, same, by decide +kernel⟩

end NameCheck.Report
