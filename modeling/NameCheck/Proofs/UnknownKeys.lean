import Mathlib.Data.List.Basic
import Mathlib.Tactic.MkIffOfInductiveProp
import Mathlib.Tactic.SplitIfs
import NameCheck.Config.Decode
import NameCheck.Proofs.DistinctKeys

/-!
What a configuration text settles. Settings are read from the four known keys of the table of rules (`foldlM_add_iff`);
whatever else stands in the text becomes a warning for each key, sorted by the bytes of the keys (`Warns`), and changes
nothing else.
-/
namespace NameCheck

/-! ## The order of bytes -/

namespace Text

def bytes (text : String) : List UInt8 := text.toByteArray.data.toList

theorem bytes_eq (text : String) : bytes text = text.toList.flatMap String.utf8EncodeChar := by
  rw [bytes, ← String.ofList_toList (s := text), String.toByteArray_ofList]
  simp [List.utf8Encode]

theorem toNat_lt (c : Char) : c.val.toNat < 0x110000 := by
  have := c.valid
  simp only [UInt32.isValidChar, Nat.isValidChar] at this
  omega

/-- Past the basic plane both characters take four bytes, which carry the digits of the code point to the base 64. -/
theorem utf8EncodeChar_lt_of_wide {c d : Char} (less : c < d) (wide : 0xffff < c.val.toNat) (rest more : List UInt8) :
    String.utf8EncodeChar c ++ rest < String.utf8EncodeChar d ++ more := by
  have numbers : c.val.toNat < d.val.toNat := less
  have bound := toNat_lt d
  unfold String.utf8EncodeChar
  generalize c.val.toNat = v at numbers wide
  generalize d.val.toNat = w at numbers bound
  obtain ⟨v₁, v₂, v₃, v₄, digits⟩ : ∃ a b c d, v / 262144 % 8 = a ∧ v / 4096 % 64 = b ∧ v / 64 % 64 = c ∧
    v % 64 = d := ⟨_, _, _, _, rfl, rfl, rfl, rfl⟩
  obtain ⟨w₁, w₂, w₃, w₄, digits'⟩ : ∃ a b c d, w / 262144 % 8 = a ∧ w / 4096 % 64 = b ∧ w / 64 % 64 = c ∧
    w % 64 = d := ⟨_, _, _, _, rfl, rfl, rfl, rfl⟩
  simp only [digits, digits', show ¬ v ≤ 0x7f by omega, show ¬ v ≤ 0x7ff by omega, show ¬ v ≤ 0xffff by omega,
    show ¬ w ≤ 0x7f by omega, show ¬ w ≤ 0x7ff by omega, show ¬ w ≤ 0xffff by omega, if_false, List.cons_append,
    List.nil_append, List.cons_lt_cons_iff, UInt8.lt_iff_toNat_lt, UInt8.toNat_ofNat', ← UInt8.toNat_inj]
  have before : v₁ * 262144 + v₂ * 4096 + v₃ * 64 + v₄ < w₁ * 262144 + w₂ * 4096 + w₃ * 64 + w₄ := by omega
  have ranges : v₁ < 8 ∧ v₂ < 64 ∧ v₃ < 64 ∧ v₄ < 64 := by omega
  have ranges' : w₁ < 8 ∧ w₂ < 64 ∧ w₃ < 64 ∧ w₄ < 64 := by omega
  clear numbers bound wide digits digits'
  have first : v₁ < w₁ ∨ v₁ = w₁ ∧ (v₂ < w₂ ∨ v₂ = w₂ ∧ (v₃ < w₃ ∨ v₃ = w₃ ∧ v₄ < w₄)) := by omega
  clear before
  rcases first with less | ⟨rfl, less | ⟨rfl, less | ⟨rfl, less⟩⟩⟩ <;> omega

theorem utf8EncodeChar_lt {c d : Char} (less : c < d) (rest more : List UInt8) :
    String.utf8EncodeChar c ++ rest < String.utf8EncodeChar d ++ more := by
  by_cases wide : 0xffff < c.val.toNat
  · exact utf8EncodeChar_lt_of_wide less wide rest more
  · have numbers : c.val.toNat < d.val.toNat := less
    have bound := toNat_lt d
    unfold String.utf8EncodeChar
    generalize c.val.toNat = v at numbers wide
    generalize d.val.toNat = w at numbers bound
    simp only
    split_ifs <;>
      simp only [List.cons_append, List.nil_append, List.cons_lt_cons_iff, UInt8.lt_iff_toNat_lt, UInt8.toNat_ofNat',
        ← UInt8.toNat_inj] <;> omega

theorem append_lt_append (first : List UInt8) {rest more : List UInt8} (less : rest < more) :
    first ++ rest < first ++ more := by
  induction first with
  | nil => exact less
  | cons byte first ih => exact List.cons_lt_cons_iff.mpr (.inr ⟨rfl, ih⟩)

theorem bytes_lt {text other : String} (less : text < other) : bytes text < bytes other := by
  rw [bytes_eq, bytes_eq]
  rw [String.lt_iff] at less
  generalize text.toList = cs at less
  generalize other.toList = ds at less
  induction cs generalizing ds with
  | nil =>
    cases ds with
    | nil => simp at less
    | cons d ds =>
      have filled : String.utf8EncodeChar d ≠ [] := by simp [String.utf8EncodeChar]; split_ifs <;> simp
      obtain ⟨byte, bytes, is⟩ := List.exists_cons_of_ne_nil filled
      rw [List.flatMap_nil, List.flatMap_cons, is]
      exact List.nil_lt_cons _ _
  | cons c cs ih =>
    cases ds with
    | nil => simp at less
    | cons d ds =>
      rw [List.flatMap_cons, List.flatMap_cons]
      rcases List.cons_lt_cons_iff.mp less with first | ⟨rfl, later⟩
      · exact utf8EncodeChar_lt first _ _
      · exact append_lt_append _ (ih ds later)

end Text

/-! ## Reading the table of rules -/

namespace Config

variable {start settings mid : Settings} {entries rest : Toml.Entries}

/-- The keys of the table of rules that mean something. -/
def knownKeys : List String := ["disabled", "severity", "naming", "hooks"]

/-- What a key settles: the meaning of its value, or the default if it is absent. -/
def given {α : Type} (meaning : Toml.Value → Except Mismatch α) (default : α) (value? : Option Toml.Value) :
    Except Mismatch α :=
  (value?.map meaning).getD (.ok default)

/-- Reading entries on top of some settings gives the settings of the known keys and looks at nothing else. -/
@[mk_iff reads_iff]
structure Reads (start : Settings) (entries : Toml.Entries) (settings : Settings) : Prop where
  disabled : given textsOf start.disabled (entries.lookup "disabled") = .ok settings.disabled
  severity : given severitiesOf start.severity (entries.lookup "severity") = .ok settings.severity
  naming : given (fun value => some <$> booleanOf value) start.naming (entries.lookup "naming") = .ok settings.naming
  hooks : given (fun value => some <$> booleanOf value) start.hooks (entries.lookup "hooks") = .ok settings.hooks

theorem given_cons {α : Type} {meaning : Toml.Value → Except Mismatch α} {default result : α} {key : String}
    {entry : String × Toml.Value} (once : entry.1 ∉ rest.map Prod.fst) :
    given meaning default ((entry :: rest).lookup key) = .ok result ↔
      ∃ between, given meaning default ([entry].lookup key) = .ok between ∧
        given meaning between (rest.lookup key) = .ok result := by
  obtain ⟨name, value⟩ := entry
  by_cases same : key = name
  · subst same
    simp [given, lookup_eq_none_iff.mpr once]
  · have differ : (key == name) = false := by simpa using same
    simp [given, List.lookup_cons, differ]

theorem reads_cons {entry : String × Toml.Value} (once : entry.1 ∉ rest.map Prod.fst) :
    Reads start (entry :: rest) settings ↔ ∃ mid, Reads start [entry] mid ∧ Reads mid rest settings := by
  constructor
  · intro ⟨disabled, severity, naming, hooks⟩
    obtain ⟨disabled₁, first₁, last₁⟩ := (given_cons once).mp disabled
    obtain ⟨severity₁, first₂, last₂⟩ := (given_cons once).mp severity
    obtain ⟨naming₁, first₃, last₃⟩ := (given_cons once).mp naming
    obtain ⟨hooks₁, first₄, last₄⟩ := (given_cons once).mp hooks
    exact ⟨⟨disabled₁, severity₁, naming₁, hooks₁⟩, ⟨first₁, first₂, first₃, first₄⟩, ⟨last₁, last₂, last₃, last₄⟩⟩
  · intro ⟨mid, first, last⟩
    refine ⟨(given_cons once).mpr ⟨_, first.disabled, last.disabled⟩, ?_, ?_, ?_⟩
    · exact (given_cons once).mpr ⟨_, first.severity, last.severity⟩
    · exact (given_cons once).mpr ⟨_, first.naming, last.naming⟩
    · exact (given_cons once).mpr ⟨_, first.hooks, last.hooks⟩

theorem reads_nil : Reads start [] settings ↔ settings = start := by
  constructor
  · rintro ⟨disabled, severity, naming, hooks⟩
    cases start
    cases settings
    simp_all [given]
  · rintro rfl
    exact ⟨rfl, rfl, rfl, rfl⟩

theorem Reads.of_same {others : Toml.Entries} (same : ∀ key ∈ knownKeys, entries.lookup key = others.lookup key)
    (reads : Reads start entries settings) : Reads start others settings where
  disabled := same "disabled" (by decide) ▸ reads.disabled
  severity := same "severity" (by decide) ▸ reads.severity
  naming := same "naming" (by decide) ▸ reads.naming
  hooks := same "hooks" (by decide) ▸ reads.hooks

theorem reads_unknown {key : String} {value : Toml.Value} (unknown : key ∉ knownKeys) :
    Reads start [(key, value)] settings ↔ settings = start := by
  have absent : ∀ known ∈ knownKeys, List.lookup known [(key, value)] = List.lookup known [] := by
    intro known member
    exact lookup_eq_none_iff.mpr (by simpa using fun same : known = key => unknown (same ▸ member))
  rw [← reads_nil]
  exact ⟨Reads.of_same absent, Reads.of_same fun known member => (absent known member).symm⟩

theorem map_eq_ok {α β : Type} {step : Except Mismatch α} {change : α → β} {b : β} :
    change <$> step = .ok b ↔ ∃ a, step = .ok a ∧ change a = b := by
  cases step <;> simp [Functor.map, Except.map]

/-- What one entry does: a known key sets its own setting, any other key is noted. -/
theorem add_eq_ok {s t : Section} {entry : String × Toml.Value} :
    s.add entry = .ok t ↔
      Reads s.settings [entry] t.settings ∧ t.unknown = s.unknown ++ [entry.1].filter (· ∉ knownKeys) := by
  obtain ⟨key, value⟩ := entry
  obtain ⟨⟨disabled, severity, naming, hooks⟩, unknown⟩ := s
  obtain ⟨⟨disabled', severity', naming', hooks'⟩, unknown'⟩ := t
  by_cases known : key ∈ knownKeys
  · simp only [knownKeys, List.mem_cons, List.not_mem_nil, or_false] at known
    rcases known with rfl | rfl | rfl | rfl <;>
      simp [Section.add, reads_iff, given, List.lookup_cons, knownKeys, map_eq_ok] <;> grind
  · have others : key ≠ "disabled" ∧ key ≠ "severity" ∧ key ≠ "naming" ∧ key ≠ "hooks" := by
      simpa [knownKeys] using known
    simp [Section.add, others, reads_unknown known, known, pure, Except.pure]
    grind

theorem foldlM_add_iff {s t : Section} (once : (entries.map Prod.fst).Nodup) :
    entries.foldlM Section.add s = .ok t ↔
      Reads s.settings entries t.settings ∧ t.unknown = s.unknown ++ (entries.map Prod.fst).filter (· ∉ knownKeys) := by
  induction entries generalizing s with
  | nil =>
    obtain ⟨settings, unknown⟩ := s
    obtain ⟨settings', unknown'⟩ := t
    simp [reads_nil, pure, Except.pure, eq_comm]
  | cons entry rest ih =>
    obtain ⟨first, later⟩ := List.nodup_cons.mp once
    rw [List.foldlM_cons, Toml.bind_eq_ok, reads_cons first]
    constructor
    · rintro ⟨between, added, last⟩
      obtain ⟨reads, noted⟩ := add_eq_ok.mp added
      obtain ⟨more, rest⟩ := (ih later).mp last
      refine ⟨⟨_, reads, more⟩, ?_⟩
      rw [rest, noted, List.append_assoc, ← List.filter_append]
      rfl
    · rintro ⟨⟨mid, reads, more⟩, noted⟩
      let added : Section := ⟨mid, s.unknown ++ [entry.1].filter (· ∉ knownKeys)⟩
      refine ⟨added, add_eq_ok.mpr ⟨reads, rfl⟩, (ih later).mpr ⟨more, ?_⟩⟩
      rw [noted, List.append_assoc, ← List.filter_append]
      rfl

/-! ## What loading a text depends on -/

/-- The entries of the table of rules. -/
def ruleEntries (entries : Toml.Entries) : Toml.Entries := ((entries.lookup rulesKey).bind entriesOf?).getD []

/-- What stands under the key of the table of rules, if anything, is a table. -/
def HasTable (entries : Toml.Entries) : Prop :=
  ∀ value, entries.lookup rulesKey = some value → (entriesOf? value).isSome

/-- Some keys without repetition, in the order of their bytes. -/
structure Listing (member : String → Prop) (keys : List String) : Prop where
  ordered : keys.Pairwise fun first second => Text.bytes first < Text.bytes second
  complete : ∀ key, key ∈ keys ↔ member key

/-- The warnings about keys beside the table of rules and about keys in it. -/
def warningsFor (outside inside : List String) : List String :=
  outside.map (fun key => "Unknown config option: '" ++ key ++ "'") ++
    inside.map (fun key => "Unknown config option in [rules]: '" ++ key ++ "'")

/-- There is a warning for every key without meaning, first for those beside the table of rules, then for those in
it. -/
def Warns (entries : Toml.Entries) (warnings : List String) : Prop :=
  ∃ outside inside, warnings = warningsFor outside inside ∧
    Listing (fun key => key ∈ entries.map Prod.fst ∧ key ≠ rulesKey) outside ∧
    Listing (fun key => key ∈ (ruleEntries entries).map Prod.fst ∧ key ∉ knownKeys) inside

/-- The known keys of the table of rules stand for the same values. -/
def SameKnown (entries others : Toml.Entries) : Prop :=
  ∀ key ∈ knownKeys, (ruleEntries entries).lookup key = (ruleEntries others).lookup key

theorem nodup_ruleEntries (distinct : Toml.Entries.Distinct entries) : ((ruleEntries entries).map Prod.fst).Nodup := by
  unfold ruleEntries
  cases found : entries.lookup rulesKey with
  | none => simp
  | some value =>
    have proper := distinct.value_of_lookup found
    cases value with
    | table origin inner => exact (Toml.Value.distinct_table.mp proper).once
    | _ => simp [entriesOf?]

theorem listing_sorted {keys : List String} {member : String → Prop} (once : keys.Nodup)
    (members : ∀ key, key ∈ keys ↔ member key) : Listing member (sorted keys) := by
  have perm : (sorted keys).Perm keys := List.mergeSort_perm keys _
  have upward : (sorted keys).Pairwise fun first second => decide (first ≤ second) := by
    refine List.pairwise_mergeSort ?_ ?_ keys
    · intro a b c first second
      exact decide_eq_true (String.le_trans (of_decide_eq_true first) (of_decide_eq_true second))
    · intro a b
      simpa using String.le_total a b
  constructor
  · refine (upward.and (perm.nodup_iff.mpr once)).imp ?_
    rintro first second ⟨below, differ⟩
    refine Text.bytes_lt ?_
    have := of_decide_eq_true below
    grind
  · intro key
    rw [perm.mem_iff, members]

theorem rules_eq_ok {result : Section} (distinct : Toml.Entries.Distinct entries) :
    given sectionOf {} (entries.lookup rulesKey) = .ok result ↔
      HasTable entries ∧ Reads {} (ruleEntries entries) result.settings ∧
        result.unknown = ((ruleEntries entries).map Prod.fst).filter (· ∉ knownKeys) := by
  have once := nodup_ruleEntries distinct
  unfold HasTable
  unfold ruleEntries at once ⊢
  cases found : entries.lookup rulesKey with
  | none =>
    obtain ⟨settings, unknown⟩ := result
    simp [given, reads_nil, @eq_comm _ _ settings, @eq_comm _ _ unknown]
  | some value =>
    rw [found, Option.bind_some] at once
    simp only [Option.some.injEq, Option.bind_some, forall_eq', given, Option.map_some, Option.getD_some, sectionOf]
    cases table : entriesOf? value with
    | none => simp [throw, throwThe, MonadExceptOf.throw]
    | some inner =>
      rw [table] at once
      simpa using foldlM_add_iff (s := {}) once

theorem ofEntries_eq : ofEntries entries =
    (fun rules : Section => (⟨rules.settings,
      warningsFor (sorted ((entries.map Prod.fst).filter (· ≠ rulesKey))) (sorted rules.unknown)⟩ : Loaded)) <$>
        given sectionOf {} (entries.lookup rulesKey) := by
  unfold ofEntries
  cases entries.lookup rulesKey <;> rfl

theorem ofEntries_eq_ok {loaded : Loaded} (distinct : Toml.Entries.Distinct entries) :
    ofEntries entries = .ok loaded ↔
      HasTable entries ∧ Reads {} (ruleEntries entries) loaded.settings ∧
        loaded.warnings = warningsFor (sorted ((entries.map Prod.fst).filter (· ≠ rulesKey)))
          (sorted (((ruleEntries entries).map Prod.fst).filter (· ∉ knownKeys))) := by
  rw [ofEntries_eq, map_eq_ok]
  constructor
  · rintro ⟨result, read, rfl⟩
    obtain ⟨table, reads, noted⟩ := (rules_eq_ok distinct).mp read
    exact ⟨table, reads, by rw [noted]⟩
  · rintro ⟨table, reads, made⟩
    refine ⟨⟨loaded.settings, _⟩, (rules_eq_ok distinct).mpr ⟨table, reads, rfl⟩, ?_⟩
    exact congrArg (Loaded.mk loaded.settings) made.symm

theorem warns_of_ofEntries {loaded : Loaded} (distinct : Toml.Entries.Distinct entries)
    (made : ofEntries entries = .ok loaded) : Warns entries loaded.warnings := by
  refine ⟨_, _, ((ofEntries_eq_ok distinct).mp made).2.2, ?_, ?_⟩
  · exact listing_sorted (distinct.once.filter _) (by simp [List.mem_filter])
  · exact listing_sorted ((nodup_ruleEntries distinct).filter _) (by simp [List.mem_filter])

theorem ofText_eq_ok {text : String} {loaded : Loaded} :
    ofText text = .ok loaded ↔ ∃ entries, Toml.parse text = .ok entries ∧ ofEntries entries = .ok loaded := by
  unfold ofText
  cases parsed : Toml.parse text with
  | error failure => simp [Except.mapError, bind, Except.bind]
  | ok entries => cases made : ofEntries entries <;> simp [Except.mapError, bind, Except.bind, made]

/-- What a text settles hangs on the known keys of the table of rules alone: any other text with the same values under
them settles the same, whatever else it holds, and has a warning for each of its own keys without meaning. -/
theorem unknown_keys_only_warn {text : String} {loaded : Loaded} (loads : ofText text = .ok loaded) :
    ∃ entries, Toml.parse text = .ok entries ∧ Reads {} (ruleEntries entries) loaded.settings ∧
      Warns entries loaded.warnings ∧
      ∀ other others, Toml.parse other = .ok others → HasTable others → SameKnown entries others →
        ∃ again, ofText other = .ok again ∧ again.settings = loaded.settings ∧ Warns others again.warnings := by
  obtain ⟨entries, parsed, made⟩ := ofText_eq_ok.mp loads
  have distinct := Toml.parse_distinct parsed
  have reads := ((ofEntries_eq_ok distinct).mp made).2.1
  refine ⟨entries, parsed, reads, warns_of_ofEntries distinct made, ?_⟩
  intro other others parsed table same
  have distinct := Toml.parse_distinct parsed
  let again : Loaded := ⟨loaded.settings, warningsFor (sorted ((others.map Prod.fst).filter (· ≠ rulesKey)))
    (sorted (((ruleEntries others).map Prod.fst).filter (· ∉ knownKeys)))⟩
  have made : ofEntries others = .ok again := (ofEntries_eq_ok distinct).mpr ⟨table, reads.of_same same, rfl⟩
  exact ⟨again, ofText_eq_ok.mpr ⟨others, parsed, made⟩, rfl, warns_of_ofEntries distinct made⟩

/-- A text with two of the known keys. -/
def plainText : String := "[rules]\nhooks = false\ndisabled = [\"V001\"]\n"

/-- The same values under the known keys, with a list, an inline table and tables with a known name around them. -/
def strayText : String :=
  "z = [\"x\"]\n[rules]\nhook = \x7bhooks = true\x7d\ndisabled = [\"V001\"]\nhooks = false\n[[hooks]]\nnaming = true\n"

/-- The entries of the text with stray keys. -/
def strayEntries : Toml.Entries :=
  [("z", .array [.text "x"]),
    ("rules", .table .header [("hook", .table .inline [("hooks", .boolean true)]), ("disabled", .array [.text "V001"]),
      ("hooks", .boolean false)]),
    ("hooks", .tables [[("naming", .boolean true)]])]

theorem strayKeys_only_warn :
    ofText plainText = .ok ⟨{ disabled := ["V001"], hooks := some false }, []⟩ ∧
      Toml.parse strayText = .ok strayEntries ∧ ∃ again, ofText strayText = .ok again ∧
        again.settings = { disabled := ["V001"], hooks := some false } ∧ Warns strayEntries again.warnings := by
  have loads : ofText plainText = .ok ⟨{ disabled := ["V001"], hooks := some false }, []⟩ := by decide +kernel
  have plain : Toml.parse plainText = .ok [("rules", .table .header [("hooks", .boolean false),
    ("disabled", .array [.text "V001"])])] := by decide +kernel
  have parsed : Toml.parse strayText = .ok strayEntries := by decide +kernel
  obtain ⟨entries, again, -, -, others⟩ := unknown_keys_only_warn loads
  cases plain.symm.trans again
  refine ⟨loads, parsed, others strayText strayEntries parsed ?_ ?_⟩
  · rintro value ⟨⟩
    rfl
  · intro key member
    simp only [knownKeys, List.mem_cons, List.not_mem_nil, or_false] at member
    rcases member with rfl | rfl | rfl | rfl <;> rfl

end Config

end NameCheck
