import Mathlib.Data.List.Nodup
import NameCheck.Proofs.Entries
import NameCheck.Toml.Document

/-!
Configuration texts have each key once. Whatever is read, in every table of it no key stands twice
(`parse_distinct`): entries are only added under keys that are not there yet.
-/
namespace NameCheck.Toml

/-- Whether a value is no table and no list of tables. -/
def Value.isLeaf : Value → Bool
  | .table .. | .tables _ => false
  | _ => true

/-- A value in whose tables every key stands once. -/
inductive Value.Distinct : Value → Prop where
  | leaf {value : Value} (leaf : value.isLeaf) : Distinct value
  | table (origin : Origin) {entries : Entries} (once : (entries.map Prod.fst).Nodup)
    (inside : ∀ entry ∈ entries, Distinct entry.2) : Distinct (.table origin entries)
  | tables {items : List Entries} (once : ∀ entries ∈ items, (entries.map Prod.fst).Nodup)
    (inside : ∀ entries ∈ items, ∀ entry ∈ entries, Distinct entry.2) : Distinct (.tables items)

/-- Entries under different keys, with every key once in the tables inside them. -/
structure Entries.Distinct (entries : Entries) : Prop where
  once : (entries.map Prod.fst).Nodup
  inside : ∀ entry ∈ entries, entry.2.Distinct

theorem Value.distinct_table {origin : Origin} {entries : Entries} :
    (Value.table origin entries).Distinct ↔ Entries.Distinct entries := by
  constructor
  · intro distinct
    cases distinct with
    | leaf leaf => cases leaf
    | table _ once inside => exact ⟨once, inside⟩
  · rintro ⟨once, inside⟩
    exact .table origin once inside

theorem Value.distinct_tables {items : List Entries} :
    (Value.tables items).Distinct ↔ ∀ entries ∈ items, Entries.Distinct entries := by
  constructor
  · intro distinct entries member
    cases distinct with
    | leaf leaf => cases leaf
    | tables once inside => exact ⟨once entries member, inside entries member⟩
  · intro each
    exact .tables (fun entries member => (each entries member).once) fun entries member => (each entries member).inside

namespace Entries.Distinct

variable {entries : Entries} {key : String} {value : Value}

theorem nil : Entries.Distinct [] := ⟨List.nodup_nil, fun _ member => by cases member⟩

theorem value_of_lookup (distinct : Entries.Distinct entries) (found : entries.lookup key = some value) :
    value.Distinct := distinct.inside (key, value) (mem_of_lookup found)

theorem snoc (distinct : Entries.Distinct entries) (new : entries.lookup key = none) (proper : value.Distinct) :
    Entries.Distinct (entries ++ [(key, value)]) := by
  have absent : key ∉ entries.map Prod.fst := lookup_eq_none_iff.mp new
  refine ⟨?_, ?_⟩
  · rw [List.map_append, List.nodup_append]
    refine ⟨distinct.once, List.nodup_singleton _, ?_⟩
    rintro other listed _ last rfl
    obtain rfl := List.mem_singleton.mp last
    exact absent listed
  · intro entry member
    rcases List.mem_append.mp member with earlier | last
    · exact distinct.inside entry earlier
    · rw [List.mem_singleton.mp last]
      exact proper

theorem replace (distinct : Entries.Distinct entries) (proper : value.Distinct) :
    Entries.Distinct (Entries.replace entries key value) := by
  refine ⟨?_, ?_⟩
  · have same : (Entries.replace entries key value).map Prod.fst = entries.map Prod.fst := by
      rw [Entries.replace, List.map_map]
      refine List.map_congr_left fun entry _ => ?_
      simp only [Function.comp_apply]
      split <;> rfl
    rw [same]
    exact distinct.once
  · intro entry member
    obtain ⟨⟨other, old⟩, listed, rfl⟩ := List.mem_map.mp member
    simp only
    split
    · exact proper
    · exact distinct.inside (other, old) listed

theorem erase (distinct : Entries.Distinct entries) : Entries.Distinct (Entries.erase entries key) :=
  ⟨distinct.once.sublist (List.filter_sublist.map _), fun entry member =>
    distinct.inside entry (List.mem_of_mem_filter member)⟩

end Entries.Distinct

/-! ## Adding entries -/

theorem bind_eq_ok {ε α β : Type} {step : Except ε α} {next : α → Except ε β} {b : β} :
    step >>= next = .ok b ↔ ∃ a, step = .ok a ∧ next a = .ok b := by
  cases step with
  | error failure => simp [bind, Except.bind]
  | ok a => simp [bind, Except.bind]

theorem addInline_distinct {name : String} {value : Value} (proper : value.Distinct) {passed path : List String}
    {entries after : Entries} (distinct : Entries.Distinct entries)
    (added : addInline name value passed path entries = .ok after) : Entries.Distinct after := by
  induction path generalizing passed entries after with
  | nil =>
    rw [addInline] at added
    split at added
    · cases added
    · rename_i new
      obtain rfl := Except.ok.inj added
      exact distinct.snoc (Option.not_isSome_iff_eq_none.mp new) proper
  | cons key path ih =>
    rw [addInline] at added
    split at added
    · rename_i new
      obtain ⟨inner, made, rest⟩ := bind_eq_ok.mp added
      obtain rfl := Except.ok.inj rest
      exact distinct.snoc new (Value.distinct_table.mpr (ih .nil made))
    · rename_i inner found
      obtain ⟨changed, made, rest⟩ := bind_eq_ok.mp added
      obtain rfl := Except.ok.inj rest
      have old := Value.distinct_table.mp (distinct.value_of_lookup found)
      exact distinct.replace (Value.distinct_table.mpr (ih old made))
    · cases added
    · cases added

/-- What an action on one table keeps, the same action on a table further inside keeps. -/
theorem inside_distinct {α : Type} {Q : α → Prop} {dotted : Bool}
    {act : Origin → Entries → Except Cause (α × Entries)}
    (acts : ∀ {origin entries a after}, Entries.Distinct entries → act origin entries = .ok (a, after) →
      Q a ∧ Entries.Distinct after)
    {passed path : List String} {origin : Origin} {entries after : Entries} {a : α}
    (distinct : Entries.Distinct entries) (acted : inside dotted act passed path origin entries = .ok (a, after)) :
    Q a ∧ Entries.Distinct after := by
  induction path generalizing passed origin entries after with
  | nil => exact acts distinct acted
  | cons key path ih =>
    rw [inside] at acted
    split at acted
    · rename_i new
      obtain ⟨⟨b, inner⟩, made, rest⟩ := bind_eq_ok.mp acted
      obtain ⟨rfl, rfl⟩ := Prod.mk.inj (Except.ok.inj rest)
      obtain ⟨holds, proper⟩ := ih .nil made
      exact ⟨holds, distinct.snoc new (Value.distinct_table.mpr proper)⟩
    · rename_i items found
      obtain ⟨⟨b, inner⟩, made, rest⟩ := bind_eq_ok.mp acted
      obtain ⟨rfl, rfl⟩ := Prod.mk.inj (Except.ok.inj rest)
      have each := Value.distinct_tables.mp (distinct.value_of_lookup found)
      have last : Entries.Distinct (items.getLastD []) := by
        rcases List.eq_nil_or_concat items with rfl | ⟨earlier, table, rfl⟩
        · exact .nil
        · simpa using each table (by simp)
      obtain ⟨holds, proper⟩ := ih last made
      refine ⟨holds, distinct.replace (Value.distinct_tables.mpr fun table member => ?_)⟩
      rcases List.mem_append.mp member with earlier | new
      · exact each table (List.dropLast_subset _ earlier)
      · rw [List.mem_singleton.mp new]
        exact proper
    · rename_i origin inner found
      split_ifs at acted
      obtain ⟨⟨b, changed⟩, made, rest⟩ := bind_eq_ok.mp acted
      obtain ⟨rfl, rfl⟩ := Prod.mk.inj (Except.ok.inj rest)
      obtain ⟨holds, proper⟩ := ih (Value.distinct_table.mp (distinct.value_of_lookup found)) made
      exact ⟨holds, distinct.replace (Value.distinct_table.mpr proper)⟩
    · cases acted

/-! ## Readers -/

namespace Reader

variable {α β : Type}

/-- Whatever a step gives has a property. -/
def Gives (step : Reader α) (P : α → Prop) : Prop := ∀ ⦃cs a rest⦄, step cs = .ok (a, rest) → P a

theorem gives_pure {P : α → Prop} {a : α} (holds : P a) : Gives (pure a) P := by
  intro cs b rest given
  obtain ⟨rfl, -⟩ := Prod.mk.inj (Except.ok.inj given)
  exact holds

theorem gives_bind {P : α → Prop} {Q : β → Prop} {step : Reader α} {next : α → Reader β} (first : step.Gives P)
    (second : ∀ a, P a → (next a).Gives Q) : (step >>= next).Gives Q := by
  intro cs b rest given
  obtain ⟨⟨a, middle⟩, stepped, went⟩ := bind_eq_ok.mp given
  exact second a (first stepped) went

/-- What a step gives for any result before it, it gives after that, too. -/
theorem gives_after {Q : β → Prop} {step : Reader α} {next : α → Reader β} (second : ∀ a, (next a).Gives Q) :
    (step >>= next).Gives Q :=
  gives_bind (P := fun _ => True) (fun _ _ _ _ => trivial) fun a _ => second a

theorem gives_fail {P : α → Prop} : Gives fail P := fun _ _ _ given => by cases given

theorem gives_failFor {P : α → Prop} (cause : Cause) : Gives (failFor cause) P := fun _ _ _ given => by cases given

theorem gives_accept {P : α → Prop} {result : Except Cause α} (holds : ∀ a, result = .ok a → P a) :
    Gives (accept result) P := by
  cases result with
  | ok a => exact gives_pure (holds a rfl)
  | error cause => exact gives_failFor cause

theorem gives_onFailure {P : α → Prop} {step : Reader α} (change : Failure → Failure) (gives : step.Gives P) :
    (step.onFailure change).Gives P := by
  intro cs a rest given
  unfold onFailure at given
  split at given
  · rename_i result stepped
    obtain rfl := Except.ok.inj given
    exact gives stepped
  · cases given

theorem gives_maybe {P : α → Prop} {step : Reader α} (gives : step.Gives P) :
    (maybe step).Gives fun found => ∀ a ∈ found, P a := by
  intro cs found rest given
  unfold maybe at given
  split at given
  · rename_i a _ stepped
    obtain ⟨rfl, -⟩ := Prod.mk.inj (Except.ok.inj given)
    rintro _ ⟨⟩
    exact gives stepped
  · split_ifs at given
    obtain ⟨rfl, -⟩ := Prod.mk.inj (Except.ok.inj given)
    rintro _ ⟨⟩

theorem gives_or {P : α → Prop} {first second : Reader α} (one : first.Gives P) (other : second.Gives P) :
    (or first second).Gives P := by
  intro cs a rest given
  unfold or at given
  split at given
  · rename_i result stepped
    obtain rfl := Except.ok.inj given
    exact one stepped
  · split_ifs at given
    exact other given

theorem gives_manyBounded {P : α → Prop} {step : Reader α} (gives : step.Gives P) (bound : Nat) :
    (manyBounded step bound).Gives fun found => ∀ a ∈ found, P a := by
  induction bound with
  | zero => exact gives_pure (by simp)
  | succ bound ih =>
    refine gives_bind (gives_maybe gives) fun found each => ?_
    cases found with
    | none => exact gives_pure (by simp)
    | some a => exact gives_bind ih fun more rest => gives_pure (by simpa using ⟨each a rfl, rest⟩)

theorem gives_separated {P : α → Prop} {item : Reader α} {separator : Reader β} (gives : item.Gives P) :
    (separated item separator).Gives fun found => ∀ a ∈ found, P a := by
  have more : (many (do let _ ← separator; item)).Gives fun found => ∀ a ∈ found, P a :=
    gives_after fun cs => gives_manyBounded (gives_after fun _ => gives) _
  have some : (separated1 item separator).Gives fun found => ∀ a ∈ found, P a :=
    gives_bind gives fun a first => gives_bind more fun found rest => gives_pure (by simpa using ⟨first, rest⟩)
  refine gives_bind (gives_maybe some) fun found each => gives_pure ?_
  cases found with
  | none => simp
  | some found => exact each found rfl

/-! ## Values and documents -/

theorem foldlM_addInline_distinct {found : List (List String × Value)} (proper : ∀ entry ∈ found, entry.2.Distinct)
    {entries after : Entries} (distinct : Entries.Distinct entries)
    (added : found.foldlM (fun entries (name, v) => addInline (name.getLastD "") v [] name.dropLast entries) entries =
      .ok after) : Entries.Distinct after := by
  induction found generalizing entries with
  | nil =>
    obtain rfl := Except.ok.inj added
    exact distinct
  | cons entry rest ih =>
    obtain ⟨middle, first, later⟩ := bind_eq_ok.mp added
    exact ih (fun entry member => proper entry (List.mem_cons_of_mem _ member))
      (addInline_distinct (proper entry List.mem_cons_self) distinct first) later

theorem inlineTable_distinct {value : Reader Value} (inner : value.Gives Value.Distinct) :
    (inlineTable value).Gives Value.Distinct := by
  have entry : (inlineEntry value).Gives fun entry => entry.2.Distinct :=
    gives_after fun name => gives_onFailure _ <| gives_after fun _ => gives_after fun _ =>
      gives_bind inner fun v proper => gives_after fun _ => gives_pure proper
  refine gives_after fun _ => gives_bind (P := Entries.Distinct) (gives_onFailure _ ?_) fun entries distinct => ?_
  · exact gives_bind (gives_separated entry) fun found proper => gives_after fun _ =>
      gives_accept fun entries added => foldlM_addInline_distinct proper .nil added
  · exact gives_after fun _ => gives_pure (Value.distinct_table.mpr distinct)

theorem valueWith_distinct {inner : Option (Reader Value)} (proper : ∀ value ∈ inner, value.Gives Value.Distinct) :
    (valueWith inner).Gives Value.Distinct := by
  have leaf : ∀ {value : Value}, value.isLeaf → Gives (pure value) Value.Distinct := fun is => gives_pure (.leaf is)
  have word : ∀ {step : Reader Value}, step.Gives Value.Distinct → (orText step).Gives Value.Distinct :=
    fun gives => gives_onFailure _ (gives_onFailure _ gives)
  refine gives_after fun next => ?_
  cases next with
  | none => exact gives_fail
  | some c =>
    simp only
    split_ifs
    · exact gives_after fun _ => leaf rfl
    · cases inner with
      | none => exact gives_onFailure _ (gives_failFor _)
      | some value => exact gives_after fun _ => gives_after fun _ => gives_after fun _ => leaf rfl
    · cases inner with
      | none => exact gives_onFailure _ (gives_failFor _)
      | some value => exact inlineTable_distinct (proper value rfl)
    · exact gives_or (gives_after fun _ => leaf rfl)
        (gives_or (gives_after fun _ => leaf rfl) (gives_after fun _ => leaf rfl))
    · exact gives_onFailure _ (gives_after fun _ => leaf rfl)
    · exact gives_onFailure _ (gives_after fun _ => leaf rfl)
    · exact word (gives_after fun _ => leaf rfl)
    · exact word (gives_after fun _ => leaf rfl)
    · exact word (gives_after fun _ => leaf rfl)
    · exact word (gives_after fun _ => leaf rfl)
    · exact word gives_fail

theorem valueWithin_distinct (depth : Nat) : (valueWithin depth).Gives Value.Distinct := by
  induction depth with
  | zero => exact valueWith_distinct (by simp)
  | succ depth ih => exact valueWith_distinct (by simpa using ih)

end Reader

namespace Document

/-- A document in whose tables every key stands once. -/
structure Distinct (document : Document) : Prop where
  root : Entries.Distinct document.root
  current : Entries.Distinct document.current

theorem around_distinct {α : Type} {Q : α → Prop} {act : Entries → Except Cause (α × Entries)}
    (acts : ∀ entries a after, Entries.Distinct entries → act entries = .ok (a, after) → Q a ∧ Entries.Distinct after)
    {root after : Entries} {path : List String} {a : α} (distinct : Entries.Distinct root)
    (acted : around root path act = .ok (a, after)) : Q a ∧ Entries.Distinct after :=
  inside_distinct (fun proper done => acts _ _ _ proper done) distinct acted

theorem finish_distinct {document : Document} (distinct : document.Distinct) {entries : Entries}
    (finished : document.finish = .ok entries) : Entries.Distinct entries := by
  unfold finish at finished
  split_ifs at finished
  · obtain rfl := Except.ok.inj finished
    exact distinct.current
  · obtain ⟨⟨_, root⟩, around, rest⟩ := bind_eq_ok.mp finished
    obtain rfl := Except.ok.inj rest
    refine (around_distinct (Q := fun _ => True) ?_ distinct.root around).2
    intro parent a after proper acted
    refine ⟨trivial, ?_⟩
    beta_reduce at acted
    split at acted
    · rename_i new _
      obtain ⟨-, rfl⟩ := Prod.mk.inj (Except.ok.inj acted)
      exact proper.snoc new (Value.distinct_table.mpr distinct.current)
    · rename_i new _
      obtain ⟨-, rfl⟩ := Prod.mk.inj (Except.ok.inj acted)
      exact proper.snoc new (Value.distinct_tables.mpr (by simpa using distinct.current))
    · rename_i items found _
      obtain ⟨-, rfl⟩ := Prod.mk.inj (Except.ok.inj acted)
      have each := Value.distinct_tables.mp (proper.value_of_lookup found)
      refine proper.replace (Value.distinct_tables.mpr fun table member => ?_)
      rcases List.mem_append.mp member with earlier | last
      · exact each table earlier
      · rw [List.mem_singleton.mp last]
        exact distinct.current
    · cases acted

theorem startTable_distinct {document after : Document} (distinct : document.Distinct) {path : List String}
    (started : document.startTable path = .ok after) : after.Distinct := by
  obtain ⟨finished, ended, rest⟩ := bind_eq_ok.mp started
  obtain ⟨⟨current, root⟩, around, rest⟩ := bind_eq_ok.mp rest
  obtain rfl := Except.ok.inj rest
  have both : Entries.Distinct current ∧ Entries.Distinct root := by
    refine around_distinct (Q := Entries.Distinct) ?_ (finish_distinct distinct ended) around
    intro parent a after proper acted
    beta_reduce at acted
    split at acted
    · obtain ⟨rfl, rfl⟩ := Prod.mk.inj (Except.ok.inj acted)
      exact ⟨.nil, proper⟩
    · rename_i entries found
      obtain ⟨rfl, rfl⟩ := Prod.mk.inj (Except.ok.inj acted)
      exact ⟨Value.distinct_table.mp (proper.value_of_lookup found), proper.erase⟩
    · cases acted
  exact ⟨both.2, both.1⟩

theorem startRepeated_distinct {document after : Document} (distinct : document.Distinct) {path : List String}
    (started : document.startRepeated path = .ok after) : after.Distinct := by
  obtain ⟨finished, ended, rest⟩ := bind_eq_ok.mp started
  obtain ⟨⟨_, root⟩, around, rest⟩ := bind_eq_ok.mp rest
  obtain rfl := Except.ok.inj rest
  have proper : Entries.Distinct root := by
    refine (around_distinct (Q := fun _ => True) ?_ (finish_distinct distinct ended) around).2
    intro parent a after proper acted
    refine ⟨trivial, ?_⟩
    beta_reduce at acted
    split at acted
    · obtain ⟨-, rfl⟩ := Prod.mk.inj (Except.ok.inj acted)
      exact proper
    · obtain ⟨-, rfl⟩ := Prod.mk.inj (Except.ok.inj acted)
      exact proper
    · cases acted
  exact ⟨proper, .nil⟩

theorem add_distinct {document after : Document} (distinct : document.Distinct) {key : List String} {value : Value}
    (proper : value.Distinct) (added : document.add key value = .ok after) : after.Distinct := by
  obtain ⟨⟨_, current⟩, inside, rest⟩ := bind_eq_ok.mp added
  obtain rfl := Except.ok.inj rest
  refine ⟨distinct.root, (inside_distinct (Q := fun _ => True) ?_ distinct.current inside).2⟩
  intro origin entries a after old acted
  refine ⟨trivial, ?_⟩
  split_ifs at acted with _ present
  obtain ⟨-, rfl⟩ := Prod.mk.inj (Except.ok.inj acted)
  exact old.snoc (Option.not_isSome_iff_eq_none.mp present) proper

end Document

namespace Reader

theorem line_distinct {document : Document} (distinct : document.Distinct) :
    (line document).Gives Document.Distinct := by
  refine gives_after fun next => ?_
  cases next with
  | none => exact gives_fail
  | some c =>
    simp only
    split_ifs
    · exact gives_onFailure _ (gives_after fun _ => gives_after fun _ => gives_pure distinct)
    · refine gives_onFailure _ (gives_onFailure _ (gives_after fun cs => ?_))
      split
      · exact gives_after fun _ => gives_accept fun _ started => Document.startRepeated_distinct distinct started
      · exact gives_after fun _ => gives_accept fun _ started => Document.startTable_distinct distinct started
      · exact gives_fail
    · exact gives_after fun _ => gives_pure distinct
    · have entry : Reader.entry.Gives fun entry => entry.2.Distinct :=
        gives_after fun name => gives_onFailure _ <| gives_after fun _ => gives_after fun _ =>
          gives_bind (valueWithin_distinct _) fun v proper => gives_after fun _ => gives_pure proper
      exact gives_onFailure _ (gives_bind entry fun entry proper =>
        gives_accept fun _ added => Document.add_distinct distinct proper added)

theorem linesBounded_distinct (bound : Nat) {document : Document} (distinct : document.Distinct) :
    (linesBounded bound document).Gives Document.Distinct := by
  induction bound generalizing document with
  | zero => exact gives_pure distinct
  | succ bound ih =>
    refine gives_bind (gives_maybe (line_distinct distinct)) fun found proper => ?_
    cases found with
    | none => exact gives_pure distinct
    | some next => exact gives_after fun _ => ih (proper next rfl)

theorem document_distinct : document.Gives Entries.Distinct :=
  gives_after fun _ => gives_after fun _ => gives_after fun _ =>
    gives_bind (linesBounded_distinct _ ⟨.nil, .nil⟩) fun _ distinct => gives_after fun _ =>
      gives_accept fun _ finished => Document.finish_distinct distinct finished

end Reader

/-- In the tables of a text that is read, every key stands once. -/
theorem parse_distinct {text : String} {entries : Entries} (parsed : parse text = .ok entries) :
    Entries.Distinct entries := by
  unfold parse at parsed
  cases read : Reader.document.run text.toList with
  | error failure =>
    rw [read] at parsed
    cases parsed
  | ok result =>
    obtain ⟨found, rest⟩ := result
    rw [read] at parsed
    obtain rfl := Except.ok.inj parsed
    exact Reader.document_distinct read

end NameCheck.Toml
