import NameCheck.Proofs.Configuration

/-!
What a history of operations makes of a registry. An operation either adds an entry or replaces what earlier settings
made of all entries (`configure_configure`), so an entry depends on its rule and on the settings that were applied last
since the rule was registered (`entries_foldl`). What runs and which references are on both follow from that.
-/
namespace NameCheck.Registry

/-! ## Histories -/

/-- What can be done to a registry. -/
inductive Operation where
  | register (rule : Rule)
  | configure (settings : Settings)

namespace Operation

def rule? : Operation → Option Rule
  | .register rule => some rule
  | .configure _ => none

def settings? : Operation → Option Settings
  | .register _ => none
  | .configure settings => some settings

end Operation

def apply (registry : Registry) : Operation → Registry
  | .register rule => registry.register rule
  | .configure settings => registry.configure settings

/-- The registry that a history leaves behind; it starts with the empty one. -/
def ofHistory (history : List Operation) : Registry := history.foldl apply {}

/-- How many rules a history registers. -/
def registrations (history : List Operation) : Nat := (history.filterMap Operation.rule?).length

/-- The settings that a history applies last, if it applies any. -/
def lastSettings? (history : List Operation) : Option Settings := (history.filterMap Operation.settings?).getLast?

/-- The entry of a rule to which settings were applied last, or none at all since it was registered. -/
def entryUnder (rule : Rule) : Option Settings → Registered
  | none => { rule, enabled := true, severity := none }
  | some settings => settings.entry rule

/-- The entries of the rules that a history registers, in order. -/
def entriesOf : List Operation → List Registered
  | [] => []
  | .register rule :: later => entryUnder rule (lastSettings? later) :: entriesOf later
  | .configure _ :: later => entriesOf later

/-- The rules that run after a history, in order and as often as they were registered, each with the severity that
replaces its own. -/
def scheduled : List Operation → List (Rule × Option Severity)
  | [] => []
  | .configure _ :: later => scheduled later
  | .register rule :: later =>
    match lastSettings? later with
    | none => (rule, none) :: scheduled later
    | some settings =>
      if settings.Enables rule.metadata then (rule, settings.givenSeverity? rule.metadata) :: scheduled later
      else scheduled later

/-! ## Entries -/

theorem lastSettings?_configure (settings : Settings) (later : List Operation) :
    lastSettings? (.configure settings :: later) = some ((lastSettings? later).getD settings) := by
  simp only [lastSettings?, List.filterMap_cons, Operation.settings?, List.getLast?_cons]

theorem length_entriesOf (history : List Operation) : (entriesOf history).length = registrations history := by
  induction history with
  | nil => rfl
  | cons operation later ih =>
    cases operation with
    | register rule => rw [entriesOf, List.length_cons, ih]; rfl
    | configure settings => rw [entriesOf, ih]; rfl

/-- Settings leave nothing of those applied before. -/
theorem configure_configure (earlier settings : Settings) (entry : Registered) :
    Registered.configure settings (Registered.configure earlier entry) = Registered.configure settings entry := rfl

/-- What the settings that are applied last, if any are, make of an entry. -/
def settle (last : Option Settings) (entry : Registered) : Registered :=
  match last with
  | none => entry
  | some settings => Registered.configure settings entry

theorem settle_registered (last : Option Settings) (rule : Rule) : settle last { rule } = entryUnder rule last := by
  cases last with
  | none => rfl
  | some settings => exact configure_eq settings rule

theorem settle_configure (last : Option Settings) (settings : Settings) (entry : Registered) :
    settle last (Registered.configure settings entry) = settle (some (last.getD settings)) entry := by
  cases last with
  | none => rfl
  | some later => exact configure_configure settings later entry

/-- A history settles the entries that were there and adds its own. -/
theorem entries_foldl (history : List Operation) (registry : Registry) :
    (history.foldl apply registry).entries =
      registry.entries.map (settle (lastSettings? history)) ++ entriesOf history := by
  induction history generalizing registry with
  | nil => exact ((List.append_nil _).trans (List.map_id _)).symm
  | cons operation later ih =>
    rw [List.foldl_cons, ih]
    cases operation with
    | register rule =>
      have added : (registry.apply (.register rule)).entries = registry.entries ++ [({ rule } : Registered)] := rfl
      have last : lastSettings? (.register rule :: later) = lastSettings? later := rfl
      rw [added, last, List.map_append, List.map_singleton, settle_registered, List.append_assoc, entriesOf,
        List.singleton_append]
    | configure settings =>
      have replaced : (registry.apply (.configure settings)).entries =
        registry.entries.map (Registered.configure settings) := rfl
      rw [replaced, lastSettings?_configure, List.map_map, entriesOf]
      congr 2
      funext entry
      exact settle_configure (lastSettings? later) settings entry

theorem entries_ofHistory (history : List Operation) : (ofHistory history).entries = entriesOf history :=
  entries_foldl history {}

/-- The entry of a registration is found behind those of the registrations before it. -/
theorem entriesOf_split (before : List Operation) (rule : Rule) (after : List Operation) :
    (entriesOf (before ++ .register rule :: after))[registrations before]? =
      some (entryUnder rule (lastSettings? after)) := by
  induction before with
  | nil => rfl
  | cons operation before ih =>
    cases operation with
    | register first =>
      have one : registrations (.register first :: before) = registrations before + 1 := rfl
      rw [one, List.cons_append, entriesOf, List.getElem?_cons_succ, ih]
    | configure settings => exact ih

/-! ## Runs -/

/-- The rules that run are those of the entries that are on. -/
theorem scheduled_eq (history : List Operation) :
    scheduled history =
      ((entriesOf history).filter Registered.enabled).map fun entry => (entry.rule, entry.severity) := by
  induction history with
  | nil => rfl
  | cons operation later ih =>
    cases operation with
    | configure settings => exact ih
    | register rule =>
      rw [scheduled, entriesOf, ih]
      cases lastSettings? later with
      | none => rfl
      | some settings =>
        by_cases on : settings.Enables rule.metadata
        · have enabled : (entryUnder rule (some settings)).enabled = true := decide_eq_true on
          rw [List.filter_cons_of_pos enabled]
          exact if_pos on
        · have disabled : ¬ (entryUnder rule (some settings)).enabled = true := by
            rw [entryUnder, Settings.entry, decide_eq_true_iff]
            exact on
          rw [List.filter_cons_of_neg disabled]
          exact if_neg on

theorem run?_ofHistory (history : List Operation) (script : Script) :
    (ofHistory history).run? script = ((scheduled history).mapM fun (ran : Rule × Option Severity) =>
      (ran.1.check? script).map (·.map (Registered.recolour ran.2))).map List.flatten := by
  rw [run?, entries_ofHistory, scheduled_eq, List.mapM_map]
  rfl

theorem isEnabled_ofHistory (history : List Operation) (ref : String) :
    (ofHistory history).isEnabled ref = true ↔
      ∃ ran ∈ scheduled history, ran.1.metadata.id = ref ∨ ran.1.metadata.name = ref := by
  rw [isEnabled, entries_ofHistory, scheduled_eq, List.any_eq_true]
  simp only [Bool.and_eq_true, Metadata.answersTo, Bool.or_eq_true, beq_iff_eq, List.mem_map, List.mem_filter]
  constructor
  · rintro ⟨entry, member, enabled, answers⟩
    exact ⟨_, ⟨entry, ⟨member, enabled⟩, rfl⟩, answers⟩
  · rintro ⟨-, ⟨entry, ⟨member, enabled⟩, rfl⟩, answers⟩
    exact ⟨entry, member, enabled, answers⟩

/-- After any history, the entry of a registration is on and has a severity as its rule and the settings that were
applied last since then ask for; if none were, it is on and has none. The rules of the entries that are on run in
order, and change nothing but the severity of what they find. A reference is on just if a rule that runs answers to
it. -/
theorem history_determines_registry (history : List Operation) :
    (ofHistory history).entries.length = registrations history ∧
      (∀ before rule after, history = before ++ .register rule :: after →
        (ofHistory history).entries[registrations before]? = some (entryUnder rule (lastSettings? after))) ∧
      (∀ script (checks : Rule → List Diagnostic),
        (∀ ran ∈ scheduled history, ran.1.check? script = some (checks ran.1)) →
        (ofHistory history).run? script =
          some ((scheduled history).flatMap fun ran => (checks ran.1).map (Registered.recolour ran.2))) ∧
      (∀ script, (ofHistory history).run? script = none ↔ ∃ ran ∈ scheduled history, ran.1.check? script = none) ∧
      ∀ ref, (ofHistory history).isEnabled ref = true ↔
        ∃ ran ∈ scheduled history, ran.1.metadata.id = ref ∨ ran.1.metadata.name = ref := by
  rw [entries_ofHistory]
  refine ⟨length_entriesOf history, ?_, ?_, ?_, isEnabled_ofHistory history⟩
  · rintro before rule after rfl
    exact entriesOf_split before rule after
  · intro script checks checked
    rw [run?_ofHistory]
    exact flatten_mapM fun ran member => by rw [checked ran member, Option.map_some]
  · intro script
    simp only [run?_ofHistory, Option.map_eq_none_iff, mapM_eq_none_iff]

/-- A rule is switched off and registered again, another one is registered before and after it is switched off. -/
def interleaved : List Operation :=
  [.register HookCallback.rule.toRule, .configure { hooks := some false }, .register HookCallback.rule.toRule,
    .register AsyncName.rule.toRule, .configure { disabled := ["N001"], severity := [("hook-func-name", .error)] },
    .register AsyncName.rule.toRule]

theorem interleaved_determined :
    (ofHistory interleaved).entries[2]?.map (fun entry => (entry.enabled, entry.severity)) = some (false, none) ∧
      (∃ script, Script.read? "a.js" "useX();async function f()\x7b\x7d" = some script ∧
        ((ofHistory interleaved).run? script).map (·.map fun d => (d.ruleId, d.severity)) =
          some [("H001", .error), ("H001", .error), ("N001", .warning)]) ∧
      (ofHistory interleaved).isEnabled "N001" = true := by
  obtain ⟨-, entries, runs, -, refs⟩ := history_determines_registry interleaved
  have ids : (scheduled interleaved).map (fun ran => (ran.1.metadata.id, ran.2)) =
      [("H001", some .error), ("H001", some .error), ("N001", none)] := by decide +kernel
  have found : (Script.read? "a.js" "useX();async function f()\x7b\x7d").map (fun script =>
      ((scheduled interleaved).all fun ran => (ran.1.check? script).isSome,
        ((scheduled interleaved).flatMap fun ran => ((ran.1.check? script).getD []).map (Registered.recolour ran.2)).map
          fun d => (d.ruleId, d.severity))) =
      some (true, [("H001", .error), ("H001", .error), ("N001", .warning)]) := by decide +kernel
  obtain ⟨script, read, outcome⟩ := Option.map_eq_some_iff.mp found
  obtain ⟨answers, reports⟩ := Prod.mk.inj outcome
  have checked : ∀ ran ∈ scheduled interleaved, ran.1.check? script = some ((ran.1.check? script).getD []) := by
    intro ran member
    obtain ⟨answer, is⟩ := Option.isSome_iff_exists.mp (List.all_eq_true.mp answers ran member)
    rw [is, Option.getD_some]
  refine ⟨?_, ⟨script, read, ?_⟩, ?_⟩
  · have third := entries (interleaved.take 3) AsyncName.rule.toRule (interleaved.drop 4) rfl
    exact (congrArg (Option.map _) third).trans (by decide +kernel)
  · rw [runs script (fun rule => (rule.check? script).getD []) checked, Option.map_some, reports]
  · obtain ⟨ran, member, is⟩ : ∃ ran ∈ scheduled interleaved, (ran.1.metadata.id, ran.2) = ("N001", none) := by
      rw [← List.mem_map, ids]
      simp
    exact (refs "N001").mpr ⟨ran, member, .inl (Prod.mk.inj is).1⟩

end NameCheck.Registry
