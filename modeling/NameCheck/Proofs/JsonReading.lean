import Mathlib.Data.List.Forall2
import NameCheck.Json.Print

/-!
Texts for programs can be read back. `Json.Spells` is the grammar of such texts, with blanks between all parts and every
way to write a character; `Json.read?` reads what the grammar derives (`read?_of_spells`), so that no text has two
meanings. The printer writes texts of the grammar (`spells_pretty`).
-/
namespace NameCheck.Json

/-! ## Characters and texts -/

def hexValue? (c : Char) : Option Nat :=
  if '0' ≤ c ∧ c ≤ '9' then some (c.toNat - '0'.toNat)
  else if 'a' ≤ c ∧ c ≤ 'f' then some (c.toNat - 'a'.toNat + 10)
  else if 'A' ≤ c ∧ c ≤ 'F' then some (c.toNat - 'A'.toNat + 10)
  else none

/-- The number that four hexadecimal digits make. -/
def unit? (a b c d : Char) : Option Nat := do
  return ((← hexValue? a) * 16 + (← hexValue? b)) * 256 + ((← hexValue? c) * 16 + (← hexValue? d))

/-- The character that a mark after a backslash stands for. -/
def marked? : Char → Option Char
  | '"' => some '"'
  | '\\' => some '\\'
  | '/' => some '/'
  | 'b' => some '\x08'
  | 'f' => some '\x0c'
  | 'n' => some '\n'
  | 'r' => some '\r'
  | 't' => some '\t'
  | _ => none

/-- The code point of a pair of units, the first one from the upper half of the pairs and the second from the lower. -/
def pair? (high low : Nat) : Option Nat :=
  if 0xd800 ≤ high ∧ high < 0xdc00 ∧ 0xdc00 ≤ low ∧ low < 0xe000 then
    some (0x10000 + (high - 0xd800) * 0x400 + (low - 0xdc00))
  else none

/-- How a character may be written between quotes. -/
inductive SpellsChar : Char → List Char → Prop where
  | plain {c : Char} (visible : 0x20 ≤ c.toNat) (noQuote : c ≠ '"') (noEscape : c ≠ '\\') : SpellsChar c [c]
  | marked {c mark : Char} (stands : marked? mark = some c) : SpellsChar c ['\\', mark]
  | unit {a b c d : Char} {n : Nat} (value : unit? a b c d = some n) (valid : n.isValidChar) :
    SpellsChar (Char.ofNat n) ['\\', 'u', a, b, c, d]
  | pair {a b c d e f g h : Char} {high low n : Nat} (first : unit? a b c d = some high)
    (second : unit? e f g h = some low) (value : pair? high low = some n) :
    SpellsChar (Char.ofNat n) ['\\', 'u', a, b, c, d, '\\', 'u', e, f, g, h]

/-- Reads the character of one unit or of a pair of units, after their first backslash and its mark. -/
def readUnits? : List Char → Option (Char × List Char)
  | a :: b :: c :: d :: rest => do
    let n ← unit? a b c d
    if n.isValidChar then return (Char.ofNat n, rest)
    else match rest with
      | '\\' :: 'u' :: e :: f :: g :: h :: rest => return (Char.ofNat (← pair? n (← unit? e f g h)), rest)
      | _ => none
  | _ => none

/-- Reads one character between quotes. -/
def readChar? : List Char → Option (Char × List Char)
  | '\\' :: mark :: rest => if mark = 'u' then readUnits? rest else (marked? mark).map (·, rest)
  | c :: rest => if 0x20 ≤ c.toNat ∧ c ≠ '"' ∧ c ≠ '\\' then some (c, rest) else none
  | [] => none

theorem pair?_invalid {high low n : Nat} (value : pair? high low = some n) : ¬high.isValidChar := by
  unfold pair? at value
  split at value
  · simp only [Nat.isValidChar]
    omega
  · cases value

theorem readChar?_of_spells {c : Char} {cs : List Char} (spells : SpellsChar c cs) (rest : List Char) :
    readChar? (cs ++ rest) = some (c, rest) := by
  cases spells with
  | plain visible noQuote noEscape => simp [readChar?, visible, noQuote, noEscape]
  | @marked c mark stands =>
    have noUnit : mark ≠ 'u' := by
      rintro rfl
      cases stands
    simp [readChar?, noUnit, stands]
  | unit value valid => simp [readChar?, readUnits?, value, valid]
  | pair first second value => simp [readChar?, readUnits?, first, second, value, pair?_invalid value]

/-- How a text may be written, quotes included. -/
def SpellsText (text : String) (cs : List Char) : Prop :=
  ∃ pieces, List.Forall₂ SpellsChar text.toList pieces ∧ cs = '"' :: (pieces.flatten ++ ['"'])

/-- Reads the characters of a text, at most so many, up to and over the closing quote. -/
def readChars? : (bound : Nat) → List Char → Option (List Char × List Char)
  | 0, _ => none
  | bound + 1, cs =>
    match readChar? cs with
    | some (c, rest) => (readChars? bound rest).map fun (more, rest) => (c :: more, rest)
    | none => if cs.head? = some '"' then some ([], cs.tail) else none

/-- Reads a text after its opening quote. -/
def readText? (cs : List Char) : Option (String × List Char) :=
  (readChars? cs.length cs).map fun (found, rest) => (String.ofList found, rest)

theorem readChars?_of_spells {text : List Char} {pieces : List (List Char)}
    (spells : List.Forall₂ SpellsChar text pieces) (rest : List Char) {bound : Nat} (enough : text.length < bound) :
    readChars? bound (pieces.flatten ++ '"' :: rest) = some (text, rest) := by
  induction spells generalizing bound with
  | nil =>
    obtain ⟨bound, rfl⟩ := Nat.exists_eq_add_one_of_ne_zero (Nat.ne_of_gt enough)
    simp [readChars?, readChar?]
  | cons here _ ih =>
    obtain ⟨bound, rfl⟩ := Nat.exists_eq_add_one_of_ne_zero (Nat.ne_of_gt (Nat.zero_lt_of_lt enough))
    rw [List.flatten_cons, List.append_assoc, readChars?, readChar?_of_spells here]
    simp [ih (Nat.lt_of_succ_lt_succ enough)]

theorem SpellsChar.length_pos {c : Char} {cs : List Char} (spells : SpellsChar c cs) : 0 < cs.length := by
  cases spells <;> simp

theorem length_le_flatten {text : List Char} {pieces : List (List Char)}
    (spells : List.Forall₂ SpellsChar text pieces) : text.length ≤ pieces.flatten.length := by
  induction spells with
  | nil => simp
  | cons here _ ih =>
    have := here.length_pos
    simp only [List.length_cons, List.flatten_cons, List.length_append]
    omega

theorem readChars?_of_quoted {text : List Char} {pieces : List (List Char)}
    (spells : List.Forall₂ SpellsChar text pieces) (rest : List Char) {bound : Nat} (enough : text.length < bound) :
    readChars? bound (pieces.flatten ++ ['"'] ++ rest) = some (text, rest) := by
  rw [List.append_assoc]
  exact readChars?_of_spells spells rest enough

theorem readText?_of_spells {text : String} {cs : List Char} (spells : SpellsText text cs) :
    ∃ inside, cs = '"' :: inside ∧ ∀ rest, readText? (inside ++ rest) = some (text, rest) := by
  obtain ⟨pieces, each, rfl⟩ := spells
  refine ⟨pieces.flatten ++ ['"'], rfl, fun rest => ?_⟩
  have enough : text.toList.length < (pieces.flatten ++ ['"'] ++ rest).length := by
    have := length_le_flatten each
    simp only [List.length_append, List.length_singleton]
    omega
  rw [readText?, readChars?_of_quoted each rest enough]
  simp

/-! ## Numbers -/

/-- How a count may be written: by its digits, without needless zeros before them. -/
structure SpellsNumber (n : Nat) (cs : List Char) : Prop where
  nonempty : cs ≠ []
  digits : ∀ c ∈ cs, c.isDigit
  short : cs.head? = some '0' → cs = ['0']
  value : Nat.ofDigitChars 10 cs 0 = n

/-- Reads a count. -/
def readNumber? (cs : List Char) : Option (Nat × List Char) :=
  let found := cs.takeWhile Char.isDigit
  if found = [] ∨ found.head? = some '0' ∧ found ≠ ['0'] then none
  else some (Nat.ofDigitChars 10 found 0, cs.dropWhile Char.isDigit)

/-- What can follow a value without becoming a part of it. -/
def EndsValue (rest : List Char) : Prop := ∀ c ∈ rest.head?, c.isDigit = false

theorem readNumber?_of_spells {n : Nat} {cs : List Char} (spells : SpellsNumber n cs) {rest : List Char}
    (ends : EndsValue rest) : readNumber? (cs ++ rest) = some (n, rest) := by
  have taken : (cs ++ rest).takeWhile Char.isDigit = cs := by
    rw [List.takeWhile_append_of_pos spells.digits]
    cases rest with
    | nil => simp
    | cons c rest => simp [ends c rfl]
  have left : (cs ++ rest).dropWhile Char.isDigit = rest := by
    rw [List.dropWhile_append_of_pos spells.digits]
    cases rest with
    | nil => rfl
    | cons c rest => simp [ends c rfl]
  rw [readNumber?, taken, left, if_neg, spells.value]
  rintro (empty | ⟨zero, long⟩)
  · exact spells.nonempty empty
  · exact long (spells.short zero)

/-! ## Values -/

/-- Whether a character may stand between the parts of a text. -/
def isGapChar (c : Char) : Bool := c == ' ' || c == '\n' || c == '\r' || c == '\t'

/-- The parts that the grammar knows: values, values with gaps around them, several of those with commas between, and
likewise the members of objects. -/
inductive Phrase where
  | value (v : Json)
  | item (v : Json)
  | items (vs : List Json)
  | member (m : String × Json)
  | members (ms : List (String × Json))

/-- The grammar of texts for programs. -/
inductive Spells : Phrase → List Char → Prop where
  | yes : Spells (.value (.bool true)) ['t', 'r', 'u', 'e']
  | no : Spells (.value (.bool false)) ['f', 'a', 'l', 's', 'e']
  | number {n : Nat} {cs : List Char} (count : SpellsNumber n cs) : Spells (.value (.number n)) cs
  | text {text : String} {cs : List Char} (spelled : SpellsText text cs) : Spells (.value (.text text)) cs
  | emptyArray {gap : List Char} (blank : gap.all isGapChar) : Spells (.value (.array [])) ('[' :: (gap ++ [']']))
  | array {items : List Json} {cs : List Char} (inside : Spells (.items items) cs) :
    Spells (.value (.array items)) ('[' :: (cs ++ [']']))
  | emptyObject {gap : List Char} (blank : gap.all isGapChar) :
    Spells (.value (.object [])) ('\x7b' :: (gap ++ ['\x7d']))
  | object {members : List (String × Json)} {cs : List Char} (inside : Spells (.members members) cs) :
    Spells (.value (.object members)) ('\x7b' :: (cs ++ ['\x7d']))
  | item {before after cs : List Char} {v : Json} (blank : before.all isGapChar) (value : Spells (.value v) cs)
    (blankAfter : after.all isGapChar) : Spells (.item v) (before ++ (cs ++ after))
  | lastItem {cs : List Char} {v : Json} (here : Spells (.item v) cs) : Spells (.items [v]) cs
  | moreItems {cs rest : List Char} {v : Json} {vs : List Json} (here : Spells (.item v) cs)
    (more : Spells (.items vs) rest) : Spells (.items (v :: vs)) (cs ++ ',' :: rest)
  | member {before between name cs : List Char} {key : String} {v : Json} (blank : before.all isGapChar)
    (spelled : SpellsText key name) (blankBetween : between.all isGapChar) (value : Spells (.item v) cs) :
    Spells (.member (key, v)) (before ++ (name ++ (between ++ ':' :: cs)))
  | lastMember {cs : List Char} {m : String × Json} (here : Spells (.member m) cs) : Spells (.members [m]) cs
  | moreMembers {cs rest : List Char} {m : String × Json} {ms : List (String × Json)} (here : Spells (.member m) cs)
    (more : Spells (.members ms) rest) : Spells (.members (m :: ms)) (cs ++ ',' :: rest)

/-- The text after a gap. -/
def skipGap (cs : List Char) : List Char := cs.dropWhile isGapChar

section Readers

variable (value : List Char → Option (Json × List Char))

/-- Reads a value with gaps around it. -/
def readItem? (cs : List Char) : Option (Json × List Char) :=
  (value (skipGap cs)).map fun (v, rest) => (v, skipGap rest)

/-- Reads a member of an object, with gaps around all its parts. -/
def readMember? (cs : List Char) : Option ((String × Json) × List Char) :=
  match skipGap cs with
  | '"' :: inside => do
    let (key, rest) ← readText? inside
    match skipGap rest with
    | ':' :: rest => (readItem? value rest).map fun (v, rest) => ((key, v), rest)
    | _ => none
  | _ => none

/-- Reads things with commas between, at most so many, up to and over a closing mark. -/
def readList? {α : Type} (one : List Char → Option (α × List Char)) (closing : Char) :
    (bound : Nat) → List Char → Option (List α × List Char)
  | 0, _ => none
  | bound + 1, cs =>
    match one cs with
    | some (a, mark :: rest) =>
      if mark = ',' then (readList? one closing bound rest).map fun (more, rest) => (a :: more, rest)
      else if mark = closing then some ([a], rest)
      else none
    | _ => none

/-- Reads what stands between an opening mark and a closing one. -/
def readInside? {α : Type} (one : List Char → Option (α × List Char)) (closing : Char) (cs : List Char) :
    Option (List α × List Char) :=
  if (skipGap cs).head? = some closing then some ([], (skipGap cs).tail) else readList? one closing cs.length cs

/-- Reads a value; `value` reads the values inside it. -/
def readValueWith? (cs : List Char) : Option (Json × List Char) :=
  match cs with
  | '"' :: inside => (readText? inside).map fun (t, rest) => (.text t, rest)
  | '[' :: inside => (readInside? (readItem? value) ']' inside).map fun (vs, rest) => (.array vs, rest)
  | '\x7b' :: inside => (readInside? (readMember? value) '\x7d' inside).map fun (ms, rest) => (.object ms, rest)
  | 't' :: 'r' :: 'u' :: 'e' :: rest => some (.bool true, rest)
  | 'f' :: 'a' :: 'l' :: 's' :: 'e' :: rest => some (.bool false, rest)
  | cs => (readNumber? cs).map fun (n, rest) => (.number n, rest)

end Readers

/-- Reads a value in which values are nested at most so deep. -/
def readValue? : (depth : Nat) → List Char → Option (Json × List Char)
  | 0 => fun _ => none
  | depth + 1 => readValueWith? (readValue? depth)

/-- The value of a text; none if it is no text of the grammar. -/
def read? (text : String) : Option Json :=
  match readItem? (readValue? text.length) text.toList with
  | some (v, []) => some v
  | _ => none

/-! ## Reading what the grammar derives -/

theorem skipGap_append {gap : List Char} (blank : gap.all isGapChar) (cs : List Char) :
    skipGap (gap ++ cs) = skipGap cs := by
  rw [skipGap, List.dropWhile_append_of_pos (by simpa using blank), skipGap]

theorem skipGap_of_head {cs : List Char} (filled : ∀ c ∈ cs.head?, isGapChar c = false) : skipGap cs = cs := by
  cases cs with
  | nil => rfl
  | cons c rest => simp [skipGap, filled c rfl]

/-- A character with which a value or the name of a member can start. -/
structure Opens (c : Char) : Prop where
  filled : isGapChar c = false
  array : c ≠ ']'
  object : c ≠ '\x7d'

theorem SpellsNumber.opens {n : Nat} {cs : List Char} (spells : SpellsNumber n cs) :
    ∃ c rest, cs = c :: rest ∧ c.isDigit := by
  obtain ⟨c, rest, rfl⟩ := List.exists_cons_of_ne_nil spells.nonempty
  exact ⟨c, rest, rfl, spells.digits c List.mem_cons_self⟩

theorem Opens.of_digit {c : Char} (digit : c.isDigit) : Opens c := by
  refine ⟨?_, ?_, ?_⟩
  · by_contra blank
    simp only [isGapChar, Bool.not_eq_false, Bool.or_eq_true, beq_iff_eq] at blank
    rcases blank with ((rfl | rfl) | rfl) | rfl <;> simp at digit
  · rintro rfl
    simp at digit
  · rintro rfl
    simp at digit

theorem Spells.opens_value {v : Json} {cs : List Char} (spells : Spells (.value v) cs) :
    ∃ c rest, cs = c :: rest ∧ Opens c := by
  cases spells with
  | number count =>
    obtain ⟨c, rest, rfl, digit⟩ := count.opens
    exact ⟨c, rest, rfl, .of_digit digit⟩
  | text spelled =>
    obtain ⟨pieces, -, rfl⟩ := spelled
    exact ⟨_, _, rfl, by decide, by decide, by decide⟩
  | _ => exact ⟨_, _, rfl, by decide, by decide, by decide⟩

/-- Whatever is written between marks, behind the gap before it there is no closing mark. -/
theorem Spells.opens {phrase : Phrase} {cs : List Char} (spells : Spells phrase cs) (rest : List Char) :
    ∃ c ∈ (skipGap (cs ++ rest)).head?, Opens c := by
  have value : ∀ {v cs} (rest : List Char), Spells (.value v) cs → ∃ c ∈ (skipGap (cs ++ rest)).head?, Opens c := by
    intro v cs rest spells
    obtain ⟨c, more, rfl, opens⟩ := spells.opens_value
    exact ⟨c, by simp [skipGap, opens.filled], opens⟩
  induction spells generalizing rest with
  | item blank spelled blankAfter ih =>
    rw [List.append_assoc, skipGap_append blank, List.append_assoc]
    exact value _ spelled
  | lastItem here ih => exact ih rest
  | moreItems here more ih =>
    rw [List.append_assoc]
    exact ih _
  | member blank spelled blankBetween item ih =>
    obtain ⟨pieces, -, rfl⟩ := spelled
    rw [List.append_assoc, skipGap_append blank]
    exact ⟨'"', by simp [skipGap, isGapChar], by decide, by decide, by decide⟩
  | lastMember here ih => exact ih rest
  | moreMembers here more ih =>
    rw [List.append_assoc]
    exact ih _
  | yes => exact value rest .yes
  | no => exact value rest .no
  | number count => exact value rest (.number count)
  | text spelled => exact value rest (.text spelled)
  | emptyArray blank => exact value rest (.emptyArray blank)
  | array inside => exact value rest (.array inside)
  | emptyObject blank => exact value rest (.emptyObject blank)
  | object inside => exact value rest (.object inside)

/-- What can follow an item without becoming a part of it. -/
def EndsItem (rest : List Char) : Prop := ∀ c ∈ rest.head?, isGapChar c = false ∧ c.isDigit = false

/-- What it means that a part is read back by readers of a depth. -/
def Phrase.ReadFrom (depth : Nat) (cs : List Char) : Phrase → Prop
  | .value v => ∀ rest, EndsValue rest → readValue? depth (cs ++ rest) = some (v, rest)
  | .item v => ∀ rest, EndsItem rest → readItem? (readValue? depth) (cs ++ rest) = some (v, rest)
  | .items vs => ∀ rest bound, cs.length < bound →
    readList? (readItem? (readValue? depth)) ']' bound (cs ++ ']' :: rest) = some (vs, rest)
  | .member m => ∀ rest, EndsItem rest → readMember? (readValue? depth) (cs ++ rest) = some (m, rest)
  | .members ms => ∀ rest bound, cs.length < bound →
    readList? (readMember? (readValue? depth)) '\x7d' bound (cs ++ '\x7d' :: rest) = some (ms, rest)

theorem EndsItem.value {rest : List Char} (ends : EndsItem rest) {gap : List Char} (blank : gap.all isGapChar) :
    EndsValue (gap ++ rest) := by
  intro c first
  cases gap with
  | nil => exact (ends c first).2
  | cons other gap =>
    obtain rfl : other = c := by simpa using first
    have : isGapChar other = true := (List.all_eq_true.mp blank) other List.mem_cons_self
    by_contra digit
    have := (Opens.of_digit (by simpa using digit)).filled
    simp_all

section Lists

variable {α : Type} {one : List Char → Option (α × List Char)} {closing : Char} {a : α} {cs : List Char}

theorem readList?_last (other : closing ≠ ',') (rest : List Char)
    (here : one (cs ++ closing :: rest) = some (a, closing :: rest)) {bound : Nat} (enough : cs.length < bound) :
    readList? one closing bound (cs ++ closing :: rest) = some ([a], rest) := by
  obtain ⟨bound, rfl⟩ := Nat.exists_eq_add_one_of_ne_zero (Nat.ne_of_gt (Nat.zero_lt_of_lt enough))
  simp [readList?, here, other]

theorem readList?_more {more rest : List Char} {as : List α}
    (here : one (cs ++ ',' :: more) = some (a, ',' :: more)) {bound : Nat}
    (tail : readList? one closing bound more = some (as, rest)) :
    readList? one closing (bound + 1) (cs ++ ',' :: more) = some (a :: as, rest) := by
  simp [readList?, here, tail]

theorem readInside?_empty {gap : List Char} (blank : gap.all isGapChar) (filled : isGapChar closing = false)
    (rest : List Char) : readInside? one closing (gap ++ [closing] ++ rest) = some ([], rest) := by
  have skipped : skipGap (gap ++ [closing] ++ rest) = closing :: rest := by
    rw [List.append_assoc, skipGap_append blank]
    exact skipGap_of_head (by simpa using filled)
  rw [readInside?, skipped, List.head?_cons, if_pos rfl, List.tail_cons]

theorem readInside?_filled {as : List α} {rest : List Char}
    (opens : ∃ c ∈ (skipGap (cs ++ closing :: rest)).head?, c ≠ closing)
    (list : ∀ bound, cs.length < bound → readList? one closing bound (cs ++ closing :: rest) = some (as, rest)) :
    readInside? one closing (cs ++ [closing] ++ rest) = some (as, rest) := by
  obtain ⟨c, first, other⟩ := opens
  rw [List.append_assoc, List.singleton_append, readInside?, if_neg, list _ (by simp)]
  rw [Option.mem_def.mp first]
  simpa using other

end Lists

theorem readValueWith?_digit (value : List Char → Option (Json × List Char)) {c : Char} (digit : c.isDigit)
    (cs : List Char) :
    readValueWith? value (c :: cs) = (readNumber? (c :: cs)).map fun (n, rest) => (.number n, rest) := by
  unfold readValueWith?
  split
  case h_6 => rfl
  all_goals
    rename_i same
    obtain ⟨rfl, -⟩ := List.cons.inj same
    simp at digit

theorem exists_depth {c : Char} {cs : List Char} {depth : Nat} (enough : (c :: cs).length ≤ depth) :
    ∃ inner, depth = inner + 1 ∧ cs.length ≤ inner :=
  ⟨depth - 1, by simp only [List.length_cons] at enough; omega, by simp only [List.length_cons] at enough; omega⟩

/-- Every part of the grammar is read back. -/
theorem readFrom_of_spells {phrase : Phrase} {cs : List Char} (spells : Spells phrase cs) {depth : Nat}
    (enough : cs.length ≤ depth) : phrase.ReadFrom depth cs := by
  induction spells generalizing depth with
  | yes =>
    obtain ⟨inner, rfl, -⟩ := exists_depth enough
    exact fun rest _ => rfl
  | no =>
    obtain ⟨inner, rfl, -⟩ := exists_depth enough
    exact fun rest _ => rfl
  | number count =>
    obtain ⟨c, more, rfl, digit⟩ := count.opens
    obtain ⟨inner, rfl, -⟩ := exists_depth enough
    intro rest ends
    have read := readNumber?_of_spells count ends
    rw [List.cons_append] at read ⊢
    rw [readValue?, readValueWith?_digit _ digit, read]
    rfl
  | text spelled =>
    obtain ⟨inside, rfl, read⟩ := readText?_of_spells spelled
    obtain ⟨inner, rfl, -⟩ := exists_depth enough
    intro rest _
    simp [readValue?, readValueWith?, read]
  | emptyArray blank =>
    obtain ⟨inner, rfl, -⟩ := exists_depth enough
    intro rest _
    rw [List.cons_append, readValue?, readValueWith?, readInside?_empty blank (by decide)]
    rfl
  | array inside ih =>
    obtain ⟨inner, rfl, fits⟩ := exists_depth enough
    rw [List.length_append] at fits
    intro rest _
    obtain ⟨c, first, opens⟩ := inside.opens (']' :: rest)
    rw [List.cons_append, readValue?, readValueWith?,
      readInside?_filled ⟨c, first, opens.array⟩ (ih (by omega) rest)]
    rfl
  | emptyObject blank =>
    obtain ⟨inner, rfl, -⟩ := exists_depth enough
    intro rest _
    rw [List.cons_append, readValue?, readValueWith?, readInside?_empty blank (by decide)]
    rfl
  | object inside ih =>
    obtain ⟨inner, rfl, fits⟩ := exists_depth enough
    rw [List.length_append] at fits
    intro rest _
    obtain ⟨c, first, opens⟩ := inside.opens ('\x7d' :: rest)
    rw [List.cons_append, readValue?, readValueWith?,
      readInside?_filled ⟨c, first, opens.object⟩ (ih (by omega) rest)]
    rfl
  | @item before after cs v blank value blankAfter ih =>
    intro rest ends
    simp only [List.length_append] at enough
    obtain ⟨c, more, rfl, opens⟩ := value.opens_value
    have fits : (c :: more).length ≤ depth := by omega
    have read := ih fits (after ++ rest) (ends.value blankAfter)
    rw [readItem?, List.append_assoc, skipGap_append blank, skipGap_of_head (by simp [opens.filled]),
      List.append_assoc, read, Option.map_some]
    simp only [skipGap_append blankAfter, skipGap_of_head fun c first => (ends c first).1]
  | lastItem here ih =>
    intro rest bound fits
    exact readList?_last (by decide) rest (ih enough (']' :: rest) (by simp [EndsItem, isGapChar])) fits
  | moreItems here more ih ihMore =>
    intro rest bound fits
    simp only [List.length_append, List.length_cons] at enough fits
    obtain ⟨bound, rfl⟩ := Nat.exists_eq_add_one_of_ne_zero (Nat.ne_of_gt (Nat.zero_lt_of_lt fits))
    rw [List.append_assoc, List.cons_append]
    exact readList?_more (ih (by omega) _ (by simp [EndsItem, isGapChar])) (ihMore (by omega) rest bound (by omega))
  | @member before between name cs key v blank spelled blankBetween value ih =>
    intro rest ends
    simp only [List.length_append, List.length_cons] at enough
    obtain ⟨inside, rfl, read⟩ := readText?_of_spells spelled
    have opened : skipGap (before ++ ('"' :: inside ++ (between ++ ':' :: cs)) ++ rest) =
        '"' :: (inside ++ (between ++ ':' :: (cs ++ rest))) := by
      rw [List.append_assoc, skipGap_append blank, skipGap_of_head (by simp [isGapChar])]
      simp
    have colon : skipGap (between ++ ':' :: (cs ++ rest)) = ':' :: (cs ++ rest) := by
      rw [skipGap_append blankBetween, skipGap_of_head (by simp [isGapChar])]
    have fits : cs.length ≤ depth := by omega
    rw [readMember?, opened]
    simp [read, colon, ih fits rest ends]
  | lastMember here ih =>
    intro rest bound fits
    exact readList?_last (by decide) rest (ih enough ('\x7d' :: rest) (by simp [EndsItem, isGapChar])) fits
  | moreMembers here more ih ihMore =>
    intro rest bound fits
    simp only [List.length_append, List.length_cons] at enough fits
    obtain ⟨bound, rfl⟩ := Nat.exists_eq_add_one_of_ne_zero (Nat.ne_of_gt (Nat.zero_lt_of_lt fits))
    rw [List.append_assoc, List.cons_append]
    exact readList?_more (ih (by omega) _ (by simp [EndsItem, isGapChar])) (ihMore (by omega) rest bound (by omega))

/-- What the grammar derives is read as the value that it spells. -/
theorem read?_of_spells {v : Json} {text : String} (spells : Spells (.item v) text.toList) : read? text = some v := by
  have read := readFrom_of_spells spells (Nat.le_of_eq String.length_toList) [] (by simp [EndsItem])
  rw [List.append_nil] at read
  simp [read?, read]

/-! ## The printer -/

theorem unit?_control : ∀ n < 0x20, unit? '0' '0' (hexDigit (n / 16)) (hexDigit n) = some n := by decide

theorem spellsChar_escape (c : Char) : SpellsChar c (escape c) := by
  unfold escape
  split_ifs with quote backslash feed return_ tab back form control
  · rw [beq_iff_eq] at quote
    subst quote
    exact .marked rfl
  · rw [beq_iff_eq] at backslash
    subst backslash
    exact .marked rfl
  · rw [beq_iff_eq] at feed
    subst feed
    exact .marked rfl
  · rw [beq_iff_eq] at return_
    subst return_
    exact .marked rfl
  · rw [beq_iff_eq] at tab
    subst tab
    exact .marked rfl
  · obtain rfl : c = '\x08' := Char.ext (UInt32.toNat_inj.mp (by simpa using back))
    exact .marked rfl
  · obtain rfl : c = '\x0c' := Char.ext (UInt32.toNat_inj.mp (by simpa using form))
    exact .marked rfl
  · have spelled := SpellsChar.unit (unit?_control c.toNat control) (Or.inl (by omega))
    rwa [Char.ofNat_toNat] at spelled
  · exact .plain (by omega) (by simpa using quote) (by simpa using backslash)

theorem spellsText_quoted (text : String) : SpellsText text (quoted text) := by
  refine ⟨text.toList.map escape, ?_, by rw [quoted, List.flatMap_def]⟩
  rw [List.forall₂_map_right_iff]
  exact List.forall₂_same.mpr fun c _ => spellsChar_escape c

theorem head?_toDigits (n : Nat) (zero : (Nat.toDigits 10 n).head? = some '0') : n = 0 := by
  rcases Nat.lt_or_ge n 10 with small | large
  · rw [Nat.toDigits_of_lt_base small] at zero
    have nonzero : ∀ n < 10, n.digitChar = '0' → n = 0 := by decide
    exact nonzero n small (Option.some.inj zero)
  · rw [Nat.toDigits_of_base_le (by decide) large, List.head?_append_of_ne_nil _ Nat.toDigits_ne_nil] at zero
    have := head?_toDigits (n / 10) zero
    omega

theorem spellsNumber_digits (n : Nat) : SpellsNumber n (digits n) where
  nonempty := Nat.toDigits_ne_nil
  digits := fun c member => Nat.isDigit_of_mem_toDigits (by decide) (by decide) member
  short := fun zero => by
    obtain rfl := head?_toDigits n zero
    rfl
  value := Nat.ofDigitChars_toDigits (by decide) (by decide)

theorem isGap_newLine (depth : Nat) : (newLine depth).all isGapChar := by
  simp [newLine, isGapChar]

/-- What holds of a value whenever it holds of the values right inside it holds of every value. -/
theorem inductionOnInside {P : Json → Prop} (bool : ∀ b, P (.bool b)) (number : ∀ n, P (.number n))
    (text : ∀ t, P (.text t)) (array : ∀ items, (∀ v ∈ items, P v) → P (.array items))
    (object : ∀ members, (∀ m ∈ members, P m.2) → P (.object members)) : ∀ v, P v
  | .bool b => bool b
  | .number n => number n
  | .text t => text t
  | .array items => array items fun v _ => inductionOnInside bool number text array object v
  | .object members => object members fun m _ => inductionOnInside bool number text array object m.2
termination_by v => sizeOf v
decreasing_by
  · rename_i member
    have := List.sizeOf_lt_of_mem member
    simp only [Json.array.sizeOf_spec]
    omega
  · rename_i member
    have := List.sizeOf_lt_of_mem member
    obtain ⟨key, v⟩ := m
    simp only [Json.object.sizeOf_spec, Prod.mk.sizeOf_spec] at this ⊢
    omega

section Pretty

variable {depth : Nat} {gap : List Char} (blank : gap.all isGapChar)
include blank

theorem spells_prettyItems {item : Json} {items : List Json}
    (each : ∀ v ∈ item :: items, Spells (.value v) (prettyValue (depth + 1) v)) :
    Spells (.items (item :: items))
      (newLine (depth + 1) ++ prettyValue (depth + 1) item ++ prettyItems depth items ++ gap) := by
  induction items generalizing item with
  | nil =>
    rw [prettyItems, List.append_nil, List.append_assoc]
    exact .lastItem (.item (isGap_newLine _) (each item List.mem_cons_self) blank)
  | cons next items ih =>
    have first := @Spells.item _ [] _ _ (isGap_newLine (depth + 1)) (each item List.mem_cons_self) rfl
    have rest := ih fun v member => each v (List.mem_cons_of_mem _ member)
    have both := Spells.moreItems first rest
    simpa [prettyItems] using both

theorem spells_prettyMember {member : String × Json}
    (inside : Spells (.value member.2) (prettyValue (depth + 1) member.2)) :
    Spells (.member member) (newLine (depth + 1) ++ prettyMember depth member ++ gap) := by
  obtain ⟨key, v⟩ := member
  have item := @Spells.item [' '] gap _ v rfl inside blank
  have spelled := @Spells.member _ [] _ _ key v (isGap_newLine (depth + 1)) (spellsText_quoted key) rfl item
  simpa [prettyMember] using spelled

theorem spells_prettyMembers {member : String × Json} {members : List (String × Json)}
    (each : ∀ m ∈ member :: members, Spells (.value m.2) (prettyValue (depth + 1) m.2)) :
    Spells (.members (member :: members))
      (newLine (depth + 1) ++ prettyMember depth member ++ prettyMembers depth members ++ gap) := by
  induction members generalizing member with
  | nil =>
    rw [prettyMembers, List.append_nil]
    exact .lastMember (spells_prettyMember blank (each member List.mem_cons_self))
  | cons next members ih =>
    have first := @spells_prettyMember depth [] rfl member (each member List.mem_cons_self)
    have rest := ih fun m inside => each m (List.mem_cons_of_mem _ inside)
    have both := Spells.moreMembers first rest
    simpa [prettyMembers] using both

end Pretty

theorem spells_prettyValue (v : Json) : ∀ depth, Spells (.value v) (prettyValue depth v) := by
  induction v using inductionOnInside with
  | bool b =>
    intro depth
    cases b with
    | true => exact .yes
    | false => exact .no
  | number n => exact fun depth => .number (spellsNumber_digits n)
  | text t => exact fun depth => .text (spellsText_quoted t)
  | array items ih =>
    intro depth
    cases items with
    | nil => exact @Spells.emptyArray [] rfl
    | cons item items =>
      exact .array (spells_prettyItems (isGap_newLine depth) fun v member => ih v member (depth + 1))
  | object members ih =>
    intro depth
    cases members with
    | nil => exact @Spells.emptyObject [] rfl
    | cons member members =>
      exact .object (spells_prettyMembers (isGap_newLine depth) fun m inside => ih m inside (depth + 1))

/-- What is printed is a text of the grammar. -/
theorem spells_pretty (v : Json) : Spells (.item v) v.pretty.toList := by
  have spelled := @Spells.item [] [] _ v rfl (spells_prettyValue v 0) rfl
  simpa [pretty] using spelled

/-- What is printed is read back. -/
theorem read?_pretty (v : Json) : read? v.pretty = some v := read?_of_spells (spells_pretty v)

end NameCheck.Json
