import Mathlib.Data.List.DropRight
import Mathlib.Data.List.Infix
import NameCheck.Files.Path
import NameCheck.Proofs.Pieces

/-!
What the functions on paths do to the parts of a path, which are its pieces other than nothing and a point. Joining adds
parts at the end (`parts_join`) and the path above loses the last one (`parent?_cases`), so a search upwards meets the
starts of the list of parts, the longest first (`findSome?_ancestors`).
-/
namespace NameCheck.Files.Path

/-- Whether a piece of a path leads somewhere else: neither nothing nor a point does. -/
def leads (piece : List Char) : Bool := piece ≠ [] ∧ piece ≠ ['.']

/-- The parts of a path: its pieces that lead somewhere else. -/
def parts (cs : List Char) : List (List Char) := (pieces cs).filter leads

theorem names_eq (path : Path) : path.names = (parts path.toList).map String.ofList := rfl

/-! ## Pieces -/

theorem pieces_eq_splitOn (cs : List Char) : pieces cs = cs.splitOn '/' := Text.pieces_eq_splitOn '/' cs

theorem pieces_slash (before after : List Char) : pieces (before ++ '/' :: after) = pieces before ++ pieces after := by
  simp only [pieces_eq_splitOn, List.splitOn]
  exact List.splitOnP_append_cons before after rfl

theorem pieces_glue {ps : List (List Char)} (plain : ∀ piece ∈ ps, '/' ∉ piece) (filled : ps ≠ []) :
    pieces (glue ps) = ps := by
  rw [pieces_eq_splitOn, glue, List.splitOn_intercalate '/' plain filled]

theorem slash_not_mem_pieces {cs piece : List Char} (member : piece ∈ pieces cs) : '/' ∉ piece :=
  Text.separator_not_mem_pieces member

/-! ## Parts -/

theorem parts_nil : parts [] = [] := rfl

theorem parts_slash (before after : List Char) : parts (before ++ '/' :: after) = parts before ++ parts after := by
  rw [parts, pieces_slash, List.filter_append]
  rfl

theorem parts_glue {ps : List (List Char)} (plain : ∀ piece ∈ ps, '/' ∉ piece) : parts (glue ps) = ps.filter leads := by
  cases ps with
  | nil => rfl
  | cons piece rest => rw [parts, pieces_glue plain (List.cons_ne_nil _ _)]

/-- The pieces of a path with another one behind it are those of both, less the empty one behind a slash. -/
theorem pieces_join_cases {path : Path} (filled : path ≠ "") (name : String) :
    (∃ ps, pieces path.toList = ps ++ [[]] ∧ pieces (path.join name).toList = ps ++ pieces name.toList) ∨
      pieces (path.join name).toList = pieces path.toList ++ pieces name.toList := by
  unfold join
  split
  · next ends =>
    rw [Bool.or_eq_true, String.isEmpty_iff, beq_iff_eq] at ends
    obtain ⟨before, is⟩ := List.getLast?_eq_some_iff.mp (ends.resolve_left filled)
    refine .inl ⟨pieces before, ?_, ?_⟩
    · rw [is, pieces_slash]
      rfl
    · rw [String.toList_append, is, List.append_assoc, List.singleton_append, pieces_slash]
  · rw [String.toList_append, String.toList_append, List.append_assoc]
    exact .inr (pieces_slash path.toList name.toList)

/-- The pieces of a path with another one behind it are those of the other one, behind pieces with the parts of the
first. -/
theorem pieces_join (path : Path) (name : String) :
    ∃ ps, pieces (path.join name).toList = ps ++ pieces name.toList ∧ ps.filter leads = parts path.toList := by
  by_cases filled : path = ""
  · subst filled
    exact ⟨[], rfl, rfl⟩
  · rcases pieces_join_cases filled name with ⟨ps, is, are⟩ | are
    · refine ⟨ps, are, ?_⟩
      rw [parts, is, List.filter_append]
      exact (List.append_nil _).symm
    · exact ⟨_, are, rfl⟩

/-- The parts of a path with another one behind it are those of both. -/
theorem parts_join (path : Path) (name : String) :
    parts (path.join name).toList = parts path.toList ++ parts name.toList := by
  obtain ⟨ps, is, filtered⟩ := pieces_join path name
  rw [parts, is, List.filter_append, filtered]
  rfl

/-- A path with a name behind it is not empty. -/
theorem join_ne_empty (path : Path) {name : String} (filled : name ≠ "") : path.join name ≠ "" := by
  intro empty
  rw [join] at empty
  split at empty
  · exact filled (String.append_eq_empty_iff.mp empty).2
  · exact filled (String.append_eq_empty_iff.mp empty).2

/-- A path with another one behind it starts at the root just if it did before, unless there was nothing before. -/
theorem isAbsolute_join {path : Path} {name : String} (relative : path = "" → isAbsolute name = false) :
    (path.join name).isAbsolute = path.isAbsolute := by
  unfold join
  cases chars : path.toList with
  | nil =>
    obtain rfl := String.toList_eq_nil_iff.mp chars
    exact relative rfl
  | cons c rest =>
    split
    · simp [isAbsolute, chars]
    · simp [isAbsolute, chars]

/-! ## The path above -/

theorem start_append (cs : List Char) : (start cs).1 ++ (start cs).2 = cs := by
  unfold start
  split <;> rfl

theorem parts_start (cs : List Char) : parts (start cs).2 = parts cs := by
  unfold start
  split
  · next rest => exact (parts_slash [] rest).symm
  · rfl
  · next rest => exact (parts_slash [] rest).trans (parts_slash ['.'] rest).symm
  · rfl

theorem glue_pieces (cs : List Char) : glue (pieces cs) = cs := by
  rw [pieces_eq_splitOn, glue, List.intercalate_splitOn]

theorem glue_cons_cons (piece next : List Char) (rest : List (List Char)) :
    glue (piece :: next :: rest) = piece ++ '/' :: glue (next :: rest) := by
  simp [glue, List.intercalate, List.intersperse]

theorem glue_starts {ps qs : List (List Char)} (first : qs <+: ps) : glue qs <+: glue ps := by
  induction qs generalizing ps with
  | nil => exact List.nil_prefix
  | cons piece qs ih =>
    obtain ⟨more, rfl⟩ := first
    cases qs with
    | nil =>
      cases more with
      | nil => exact List.prefix_rfl
      | cons next more =>
        rw [List.singleton_append, glue_cons_cons]
        simp [glue, List.intercalate]
    | cons next qs =>
      rw [List.cons_append, List.cons_append, glue_cons_cons, glue_cons_cons, List.prefix_append_right_inj,
        List.cons_prefix_cons]
      exact ⟨rfl, ih ⟨more, rfl⟩⟩

/-- A point before pieces, the first of which is nothing, is no part. -/
theorem parts_point {qs more : List (List Char)} (plain : ∀ piece ∈ qs, '/' ∉ piece) (first : qs <+: [] :: more) :
    parts (['.'] ++ glue qs) = qs.filter leads := by
  cases qs with
  | nil => rfl
  | cons piece rest =>
    obtain ⟨rfl, -⟩ := List.cons_prefix_cons.mp first
    cases rest with
    | nil => rfl
    | cons next rest =>
      rw [glue_cons_cons, List.nil_append, parts_slash, parts_glue fun piece member => plain piece (.tail _ member)]
      rfl

/-- The parts of a path that is cut behind some of its pieces are those of these pieces. -/
theorem parts_cut {cs : List Char} {qs : List (List Char)} (first : qs <+: pieces (start cs).2) :
    parts ((start cs).1 ++ glue qs) = qs.filter leads := by
  have plain : ∀ piece ∈ qs, '/' ∉ piece := fun piece member => slash_not_mem_pieces (first.subset member)
  unfold start at first ⊢
  split at first
  · exact (parts_slash [] (glue qs)).trans (parts_glue plain)
  · exact parts_point plain first
  · exact parts_point plain first
  · exact parts_glue plain

/-- A path that is cut behind some of its pieces is a start of the path. -/
theorem cut_starts {cs : List Char} {qs : List (List Char)} (first : qs <+: pieces (start cs).2) :
    (start cs).1 ++ glue qs <+: cs := by
  conv => rhs; rw [← start_append cs, ← glue_pieces (start cs).2]
  exact (List.prefix_append_right_inj _).mpr (glue_starts first)

/-- A path that is cut behind some of its pieces starts at the root just if the path does. -/
theorem head?_cut {cs : List Char} {qs : List (List Char)} (first : qs <+: pieces (start cs).2) :
    ((start cs).1 ++ glue qs).head? = some '/' ↔ cs.head? = some '/' := by
  constructor
  · intro slash
    obtain ⟨rest, is⟩ := cut_starts first
    rw [← is, List.head?_append, slash]
    rfl
  · intro slash
    obtain ⟨rest, rfl⟩ := List.head?_eq_some_iff.mp slash
    rfl

theorem trimPieces_eq (ps : List (List Char)) : trimPieces ps = ps.rdropWhile (!leads ·) := by
  have same : (fun piece => decide (piece = [] ∨ piece = ['.'])) = fun piece => !leads piece := by
    funext piece
    simp [leads]
  rw [trimPieces, same, List.rdropWhile]

theorem trimPieces_starts (ps : List (List Char)) : trimPieces ps <+: ps := by
  rw [trimPieces_eq]
  exact List.rdropWhile_prefix _ ps

theorem filter_trimPieces (ps : List (List Char)) : (trimPieces ps).filter leads = ps.filter leads := by
  have dropped : (ps.rtakeWhile (!leads ·)).filter leads = [] := by
    rw [List.filter_eq_nil_iff]
    intro piece member
    simpa using List.mem_rtakeWhile_imp member
  calc (trimPieces ps).filter leads
    _ = (ps.rdropWhile (!leads ·) ++ ps.rtakeWhile (!leads ·)).filter leads := by
      rw [List.filter_append, dropped, List.append_nil, trimPieces_eq]
    _ = ps.filter leads := by rw [List.rdropWhile_append_rtakeWhile]

/-- Without the last of the pieces that are left, one part less is left. -/
theorem filter_dropLast_trimPieces (ps : List (List Char)) :
    (trimPieces (trimPieces ps).dropLast).filter leads = (ps.filter leads).dropLast := by
  rw [filter_trimPieces, ← filter_trimPieces ps]
  by_cases empty : trimPieces ps = []
  · rw [empty]
    rfl
  · have leading : leads ((trimPieces ps).getLast empty) = true := by
      have stops := List.rdropWhile_last_not (!leads ·) ps (trimPieces_eq ps ▸ empty)
      simpa [trimPieces_eq] using stops
    conv => rhs; rw [← List.dropLast_concat_getLast empty]
    rw [List.filter_append, List.filter_singleton, leading]
    simp

theorem parent?_eq (path : Path) :
    path.parent? = match trimPieces (pieces (start path.toList).2) with
      | [] => if (start path.toList).1 = ['.'] then some "" else none
      | ps => some (String.ofList ((start path.toList).1 ++ glue (trimPieces ps.dropLast))) := rfl

/-- The path above a path, where there is one, is a start of its text with one part less. There is one if the path has
parts. -/
theorem parent?_cases (path : Path) :
    (path.parent? = none ∧ parts path.toList = []) ∨
      ∃ above, path.parent? = some above ∧ parts above.toList = (parts path.toList).dropLast ∧
        above.isAbsolute = path.isAbsolute := by
  have cut := filter_dropLast_trimPieces (pieces (start path.toList).2)
  have left := filter_trimPieces (pieces (start path.toList).2)
  have same : (pieces (start path.toList).2).filter leads = parts path.toList := parts_start path.toList
  rw [same] at cut left
  rw [parent?_eq]
  cases trimmed : trimPieces (pieces (start path.toList).2) with
  | nil =>
    rw [trimmed, List.filter_nil] at left
    by_cases point : (start path.toList).1 = ['.']
    · have relative : path.toList.head? = some '.' := by
        rw [← start_append path.toList, point]
        rfl
      refine .inr ⟨"", if_pos point, ?_, ?_⟩
      · rw [← left]
        rfl
      · rw [isAbsolute, isAbsolute, relative]
        rfl
    · exact .inl ⟨if_neg point, left.symm⟩
  | cons piece rest =>
    rw [trimmed] at cut
    have first : trimPieces (piece :: rest).dropLast <+: pieces (start path.toList).2 := by
      refine (trimPieces_starts _).trans (( List.dropLast_prefix _).trans ?_)
      rw [← trimmed]
      exact trimPieces_starts _
    refine .inr ⟨_, rfl, ?_, ?_⟩
    · rw [String.toList_ofList, parts_cut first, cut]
    · rw [isAbsolute, isAbsolute, String.toList_ofList, Bool.eq_iff_iff, beq_iff_eq, beq_iff_eq, head?_cut first]

/-! ## Searches upwards -/

/-- The starts of two lists together are the shorter starts of the first and the starts of the second behind it. -/
theorem inits_beyond {α : Type} {first : List α} (filled : first ≠ []) (second : List α) :
    (first ++ second).inits = first.dropLast.inits ++ second.inits.map (first ++ ·) := by
  obtain ⟨before, last, rfl⟩ : ∃ before last, first = before ++ [last] :=
    ⟨_, _, (List.dropLast_concat_getLast filled).symm⟩
  rw [List.append_assoc, List.singleton_append, List.inits_append, List.inits_cons, List.tail_cons, List.map_map,
    List.dropLast_concat]
  simp only [Function.comp_def, List.append_assoc, List.singleton_append]

theorem reverse_inits {α : Type} {items : List α} (filled : items ≠ []) :
    items.inits.reverse = items :: items.dropLast.inits.reverse := by
  have split := inits_beyond filled []
  rw [List.append_nil] at split
  simp [split]

/-- A search through a path and some paths above it meets the starts of its parts, the longest first, if it goes far
enough and what it looks for depends on nothing else. -/
theorem findSome?_ancestorsBounded {α : Type} {f : Path → Option α} {g : List (List Char) → Option α} (bound : Nat)
    (path : Path) (enough : (parts path.toList).length < bound)
    (same : ∀ above : Path, above.isAbsolute = path.isAbsolute → f above = g (parts above.toList)) :
    (ancestorsBounded bound path).findSome? f = (parts path.toList).inits.reverse.findSome? g := by
  induction bound generalizing path with
  | zero => omega
  | succ bound ih =>
    rw [ancestorsBounded, List.findSome?_cons, same path rfl]
    rcases parent?_cases path with ⟨last, only⟩ | ⟨above, is, fewer, absolute⟩
    · rw [last, only]
      cases found : g [] <;> simp [found]
    · have further : ∀ higher : Path, higher.isAbsolute = above.isAbsolute → f higher = g (parts higher.toList) :=
        fun higher is => same higher (is.trans absolute)
      rw [is, Option.map_some, Option.getD_some]
      by_cases empty : parts path.toList = []
      · -- A point has a path above it that has no parts either, and nothing new is found there.
        rw [empty]
        rw [empty, List.dropLast_nil] at fewer
        cases found : g [] with
        | some answer => simp [found]
        | none =>
          cases bound with
          | zero => simp [ancestorsBounded, found]
          | succ bound => simp [ih above (by simp [fewer]) further, fewer, found]
      · have positive := List.length_pos_iff.mpr empty
        rw [reverse_inits empty, List.findSome?_cons, ← fewer, ih above ?_ further]
        rw [fewer, List.length_dropLast]
        omega

theorem length_parts_le (cs : List Char) : (parts cs).length ≤ cs.length := by
  induction cs with
  | nil => exact Nat.le_refl 0
  | cons c rest ih =>
    rw [parts, pieces] at ih ⊢
    rw [Text.pieces, List.length_cons]
    split
    · exact Nat.le_succ_of_le ih
    · cases split : Text.pieces '/' rest with
      | nil => exact Nat.le_trans (List.length_filter_le _ _) (by simp)
      | cons first more =>
        have fewer : (more.filter leads).length ≤ ((first :: more).filter leads).length := by
          rw [List.filter_cons]
          split
          · exact Nat.le_succ _
          · exact Nat.le_refl _
        have one : (((c :: first) :: more).filter leads).length ≤ (more.filter leads).length + 1 := by
          rw [List.filter_cons]
          split
          · exact Nat.le_refl _
          · exact Nat.le_succ _
        rw [split] at ih
        exact Nat.le_trans one (Nat.succ_le_succ (Nat.le_trans fewer ih))

/-- A search through a path and all paths above it goes far enough. -/
theorem findSome?_ancestors {α : Type} {f : Path → Option α} {g : List (List Char) → Option α} (path : Path)
    (same : ∀ above : Path, above.isAbsolute = path.isAbsolute → f above = g (parts above.toList)) :
    path.ancestors.findSome? f = (parts path.toList).inits.reverse.findSome? g := by
  refine findSome?_ancestorsBounded (path.length + 1) path ?_ same
  have fewer := length_parts_le path.toList
  rw [String.length_toList] at fewer
  omega

end NameCheck.Files.Path
