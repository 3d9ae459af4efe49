import Mathlib.Data.List.Basic
import NameCheck.Proofs.ExitStatus

/-!
What settings make of an analysis. `Settings.adjust` says it of one diagnostic at a time. Running the rules under
settings (`run?_adjusts`) and leaving out what comments switch off (`filter_adjusts`) both agree with it, so the analysis
under settings is the analysis without any, adjusted.
-/
namespace NameCheck

/-- What settings make of a diagnostic. One of a rule that they do not leave on is dropped and any other one of a rule
gets the severity that they give to the rule, if any. What no rule reports stays as it is. -/
def Settings.adjust (settings : Settings) (d : Diagnostic) : Option Diagnostic :=
  match Registry.builtin.get? d.ruleId with
  | none => some d
  | some rule =>
    if settings.Enables rule.metadata then
      some { d with severity := (settings.givenSeverity? rule.metadata).getD d.severity }
    else none

theorem get?_configured (settings : Settings) (id : String) :
    (Registry.ofSettings settings).get? id = Registry.builtin.get? id := rfl

namespace Settings

variable {settings : Settings} {d adjusted : Diagnostic}

/-- Diagnostics of a built-in rule are dropped or recoloured as settings say about the rule. -/
theorem adjust_of_rule (settings : Settings) {rule : ModuleRule} (builtin : rule ∈ builtinRules)
    (of : d.ruleId = rule.metadata.id) :
    settings.adjust d = if settings.Enables rule.metadata then
      some (Registered.recolour (settings.givenSeverity? rule.metadata) d) else none := by
  have found : Registry.builtin.get? d.ruleId = some rule.toRule := by
    rw [of, ← get?_configured settings, get?_ofSettings settings builtin]
  rw [adjust, found]
  rfl

/-- No settings drop or recolour an error of the text: no rule has the id of errors. -/
theorem adjust_parse (settings : Settings) (error : d.ruleId = Analysis.parseId) : settings.adjust d = some d := by
  have unknown : Registry.builtin.get? d.ruleId = none := by
    rw [error, ← get?_configured settings, get?_parseId settings]
  rw [adjust, unknown]

/-- Adjusting changes nothing but the severity. -/
theorem adjust_eq_some (kept : settings.adjust d = some adjusted) : ∃ severity, adjusted = { d with severity } := by
  unfold adjust at kept
  split at kept
  · exact ⟨d.severity, (Option.some.inj kept).symm⟩
  · split at kept
    · exact ⟨_, (Option.some.inj kept).symm⟩
    · cases kept

end Settings

/-! ## Rules -/

theorem ruleId_of_check? {rule : ModuleRule} {script : Script} {found : List Diagnostic}
    (checked : rule.check? script = some found) {d : Diagnostic} (member : d ∈ found) :
    d.ruleId = rule.metadata.id := by
  unfold ModuleRule.check? at checked
  split at checked
  · obtain rfl := Option.some.inj checked
    cases member
  · obtain ⟨violation, -, located⟩ := (mem_of_mapM checked d).mp member
    obtain ⟨range, -, rfl⟩ := Option.map_eq_some_iff.mp located
    rfl

/-- What a rule reports under settings is what it reports without any, adjusted; if it does not run, nothing is left. -/
theorem filterMap_adjust_rule (settings : Settings) {rule : ModuleRule} (builtin : rule ∈ builtinRules)
    {script : Script} {found : List Diagnostic} (checked : rule.check? script = some found) :
    found.filterMap settings.adjust = if settings.Enables rule.metadata then
      found.map (Registered.recolour (settings.givenSeverity? rule.metadata)) else [] := by
  have each : ∀ d ∈ found, settings.adjust d = if settings.Enables rule.metadata then
      some (Registered.recolour (settings.givenSeverity? rule.metadata) d) else none :=
    fun d member => Settings.adjust_of_rule settings builtin (ruleId_of_check? checked member)
  rw [List.filterMap_congr each]
  split
  · exact congrFun (List.filterMap_eq_map (f := Registered.recolour _)) found
  · simp

theorem run?_builtin (script : Script) :
    Registry.builtin.run? script = (builtinRules.mapM (ModuleRule.check? · script)).map List.flatten := by
  have on : Registry.builtin.entries.filter Registered.enabled =
    builtinRules.map fun rule => { rule := rule.toRule } := rfl
  have unchanged : Registered.recolour none = id := rfl
  rw [Registry.run?, on, List.mapM_map]
  simp [Function.comp_def, Registered.run?, unchanged]

/-- Items that come to nothing may be left out. -/
theorem flatMap_filter {α β : Type} {f : α → List β} {kept : α → Bool} {items : List α}
    (empty : ∀ item ∈ items, kept item = false → f item = []) : (items.filter kept).flatMap f = items.flatMap f := by
  induction items with
  | nil => rfl
  | cons item rest ih =>
    have others := ih fun item member => empty item (List.mem_cons_of_mem _ member)
    cases keeps : kept item with
    | true => rw [List.filter_cons_of_pos keeps, List.flatMap_cons, List.flatMap_cons, others]
    | false =>
      rw [List.filter_cons_of_neg (by simp [keeps]), List.flatMap_cons, empty item List.mem_cons_self keeps, others,
        List.nil_append]

/-- If the rules answer for a script without settings, those left on answer under settings, and with the same
diagnostics adjusted. -/
theorem run?_adjusts (settings : Settings) {script : Script} {found : List Diagnostic}
    (runs : Registry.builtin.run? script = some found) :
    (Registry.ofSettings settings).run? script = some (found.filterMap settings.adjust) := by
  let found' (rule : ModuleRule) : List Diagnostic := (rule.check? script).getD []
  have answered : ∀ rule ∈ builtinRules, rule.check? script = some (found' rule) := by
    intro rule builtin
    cases checked : rule.check? script with
    | none =>
      rw [run?_builtin, mapM_eq_none_iff.mpr ⟨rule, builtin, checked⟩] at runs
      cases runs
    | some answer => simp [found', checked]
  have adjusted : ∀ rule ∈ builtinRules, (found' rule).filterMap settings.adjust =
      if settings.Enables rule.metadata then
        (found' rule).map (Registered.recolour (settings.givenSeverity? rule.metadata)) else [] :=
    fun rule builtin => filterMap_adjust_rule settings builtin (answered rule builtin)
  have on : ∀ rule ∈ builtinRules.filter fun rule => settings.Enables rule.metadata,
      (rule.check? script).map (·.map (Registered.recolour (settings.givenSeverity? rule.metadata))) =
        some ((found' rule).filterMap settings.adjust) := by
    intro rule member
    obtain ⟨builtin, enabled⟩ := List.mem_filter.mp member
    rw [adjusted rule builtin, if_pos (of_decide_eq_true enabled), answered rule builtin, Option.map_some]
  have off : ∀ rule ∈ builtinRules, decide (settings.Enables rule.metadata) = false →
      (found' rule).filterMap settings.adjust = [] := by
    intro rule builtin disabled
    rw [adjusted rule builtin, if_neg (of_decide_eq_false disabled)]
  have plain := flatten_mapM answered
  rw [← run?_builtin, runs, Option.some.injEq] at plain
  rw [run?_ofSettings_eq, flatten_mapM on, flatMap_filter off, plain, List.filterMap_flatMap]

/-! ## Analyses -/

/-- Settings do not change what directives switch off: neither which rule a diagnostic belongs to nor the line where it
stands is theirs to change. -/
theorem isSuppressed_adjusted {settings : Settings} (script : Script) {d adjusted : Diagnostic}
    (kept : settings.adjust d = some adjusted) :
    Analysis.isSuppressed (Registry.ofSettings settings) script adjusted =
      Analysis.isSuppressed Registry.builtin script d := by
  obtain ⟨severity, rfl⟩ := Settings.adjust_eq_some kept
  rfl

theorem filter_adjusts (settings : Settings) (script : Script) (found : List Diagnostic) :
    (found.filterMap settings.adjust).filter (!Analysis.isSuppressed (Registry.ofSettings settings) script ·) =
      (found.filter (!Analysis.isSuppressed Registry.builtin script ·)).filterMap settings.adjust := by
  induction found with
  | nil => rfl
  | cons d rest ih =>
    cases kept : settings.adjust d with
    | none =>
      cases suppressed : Analysis.isSuppressed Registry.builtin script d with
      | true => simp [kept, suppressed, ih]
      | false => simp [kept, suppressed, ih]
    | some adjusted =>
      have same := isSuppressed_adjusted script kept
      cases suppressed : Analysis.isSuppressed Registry.builtin script d with
      | true => simp [kept, suppressed, same, ih]
      | false => simp [kept, suppressed, same, ih]

/-- The errors of the text among diagnostics are the same before and after settings apply. -/
theorem filter_parse_adjust (settings : Settings) (found : List Diagnostic) :
    (found.filterMap settings.adjust).filter (·.ruleId == Analysis.parseId) =
      found.filter (·.ruleId == Analysis.parseId) := by
  induction found with
  | nil => rfl
  | cons d rest ih =>
    by_cases error : d.ruleId = Analysis.parseId
    · simp [Settings.adjust_parse settings error, error, ih]
    · cases kept : settings.adjust d with
      | none => simp [kept, error, ih]
      | some adjusted =>
        obtain ⟨severity, rfl⟩ := Settings.adjust_eq_some kept
        simp [kept, error, ih]

theorem analysis_adjusts (settings : Settings) {script : Script} {found : List Diagnostic}
    (runs : Analysis.run? Registry.builtin script = some found) :
    Analysis.run? (Registry.ofSettings settings) script = some (found.filterMap settings.adjust) := by
  obtain ⟨reported, reports, rfl⟩ := Option.map_eq_some_iff.mp runs
  have errors : (script.errors.map (Analysis.ofError script)).filterMap settings.adjust =
      script.errors.map (Analysis.ofError script) := by
    rw [List.filterMap_map]
    exact congrFun List.filterMap_eq_map script.errors
  rw [← filter_adjusts, List.filterMap_append, errors, Analysis.run?, run?_adjusts settings reports, Option.map_some]

/-- A rule breaks off for a script: it finds something that starts or ends inside a character. -/
def ModuleRule.BreaksOff (rule : ModuleRule) (script : Script) : Prop :=
  ∃ module, script.module = some module ∧ ∃ violation ∈ rule.violations module, script.range? violation.span = none

theorem check?_eq_none {rule : ModuleRule} {script : Script} : rule.check? script = none ↔ rule.BreaksOff script := by
  rw [ModuleRule.check?, ModuleRule.BreaksOff]
  cases script.module with
  | none => simp
  | some module => simp [mapM_eq_none_iff, ModuleRule.locate?]

theorem analysis_eq_none {script : Script} :
    Analysis.run? Registry.builtin script = none ↔ ∃ rule ∈ builtinRules, rule.BreaksOff script := by
  rw [Analysis.run?, Option.map_eq_none_iff, run?_builtin, Option.map_eq_none_iff, mapM_eq_none_iff]
  simp only [check?_eq_none]

/-- Under settings only the rules that are left on can break off. -/
theorem analysis_ofSettings_eq_none {settings : Settings} {script : Script} :
    Analysis.run? (Registry.ofSettings settings) script = none ↔
      ∃ rule ∈ builtinRules, settings.Enables rule.metadata ∧ rule.BreaksOff script := by
  rw [Analysis.run?, Option.map_eq_none_iff, run?_ofSettings_eq, Option.map_eq_none_iff, mapM_eq_none_iff]
  simp only [List.mem_filter, decide_eq_true_eq, Option.map_eq_none_iff, check?_eq_none, and_assoc]

/-- Settings make of the analysis of a script what they make of each of its diagnostics just if they do not leave all
rules off that break off: then there is no analysis without them. They add no diagnostic, take or change nothing of the
errors of the text, and leave alone what directives switch off. No rule breaks off for a script that was read from a
text without a byte-order mark. -/
theorem settings_adjust_analysis_iff (settings : Settings) (script : Script) :
    (Analysis.run? (Registry.ofSettings settings) script =
        (Analysis.run? Registry.builtin script).map (·.filterMap settings.adjust) ↔
      ((∃ rule ∈ builtinRules, rule.BreaksOff script) →
        ∃ rule ∈ builtinRules, settings.Enables rule.metadata ∧ rule.BreaksOff script)) ∧
      (∀ found, Analysis.run? Registry.builtin script = some found →
        ∃ configured, Analysis.run? (Registry.ofSettings settings) script = some configured ∧
          configured = found.filterMap settings.adjust ∧
          (∀ d ∈ configured, ∃ before ∈ found, d = { before with severity := d.severity }) ∧
          configured.filter (·.ruleId == Analysis.parseId) = found.filter (·.ruleId == Analysis.parseId)) ∧
      (∀ d, Analysis.isSuppressed (Registry.ofSettings settings) script d =
        Analysis.isSuppressed Registry.builtin script d) ∧
      ∀ filename source, Script.read? filename source = some script →
        Command.Check.Unmarked ⟨filename, source⟩ → ∃ found, Analysis.run? Registry.builtin script = some found := by
  refine ⟨?_, fun found runs => ⟨_, analysis_adjusts settings runs, rfl, ?_, filter_parse_adjust settings found⟩,
    fun d => rfl, ?_⟩
  · rw [← analysis_eq_none, ← analysis_ofSettings_eq_none]
    cases runs : Analysis.run? Registry.builtin script with
    | none => simp
    | some found => simp [analysis_adjusts settings runs]
  · intro d member
    obtain ⟨before, present, kept⟩ := List.mem_filterMap.mp member
    obtain ⟨severity, rfl⟩ := Settings.adjust_eq_some kept
    exact ⟨before, present, rfl⟩
  · intro filename source read unmarked
    obtain ⟨found, runs, -⟩ := Command.Check.analysis_severities {} unmarked read
    exact ⟨found, runs⟩

/-- An error, two calls of hooks of which a directive switches one off, and an asynchronous function. -/
def mixedFindings : String := "break\nuseX()\nuseY()//namelint-disable-line hook-func-name\nasync function f() \x7b\x7d"

/-- Settings that switch one rule off, give another one two severities, and try to hide errors. -/
def mixedSettings : Settings where
  disabled := ["async-func-name", "PARSE"]
  severity := [("hook-func-name", .hint), ("H001", .error), ("PARSE", .info)]

theorem mixedFindings_adjusted :
    ∃ script found configured, Script.read? "a.js" mixedFindings = some script ∧
      Analysis.run? Registry.builtin script = some found ∧
      Analysis.run? (Registry.ofSettings mixedSettings) script = some configured ∧
      configured = found.filterMap mixedSettings.adjust ∧
      found.map (fun d => (d.ruleId, d.line, d.severity)) =
        [("PARSE", 1, .error), ("H001", 2, .warning), ("N001", 4, .warning)] ∧
      configured.map (fun d => (d.ruleId, d.line, d.severity)) = [("PARSE", 1, .error), ("H001", 2, .error)] := by
  have outcome : ((Script.read? "a.js" mixedFindings).bind fun script => (Analysis.run? Registry.builtin script).map
      fun found => (found.map (fun d => (d.ruleId, d.line, d.severity)),
        (found.filterMap mixedSettings.adjust).map (fun d => (d.ruleId, d.line, d.severity)))) =
      some ([("PARSE", 1, .error), ("H001", 2, .warning), ("N001", 4, .warning)],
        [("PARSE", 1, .error), ("H001", 2, .error)]) := by decide +kernel
  obtain ⟨script, read, outcome⟩ := Option.bind_eq_some_iff.mp outcome
  obtain ⟨-, applies, -, answers⟩ := settings_adjust_analysis_iff mixedSettings script
  obtain ⟨found, runs⟩ := answers "a.js" mixedFindings read (by simp [Command.Check.Unmarked, mixedFindings])
  obtain ⟨configured, configuredRuns, is, -, -⟩ := applies found runs
  rw [runs, Option.map_some, Option.some.injEq, Prod.mk.injEq] at outcome
  exact ⟨script, found, configured, read, runs, configuredRuns, is, outcome.1, is ▸ outcome.2⟩

/-- A call of a hook that a byte-order mark moves inside a character. The analysis breaks off, but not under settings that
switch the rule off: these do not say what is made of the analysis without them. -/
theorem disabled_rule_hides_break :
    ∃ script, Script.read? "a.js" "\ufeff useX()" = some script ∧ Analysis.run? Registry.builtin script = none ∧
      Analysis.run? (Registry.ofSettings { hooks := some false }) script = some [] := by
  have outcome : (Script.read? "a.js" "\ufeff useX()").map (fun script =>
      (Analysis.run? Registry.builtin script, Analysis.run? (Registry.ofSettings { hooks := some false }) script)) =
      some (none, some []) := by decide +kernel
  obtain ⟨script, read, runs⟩ := Option.map_eq_some_iff.mp outcome
  exact ⟨script, read, Prod.mk.inj runs⟩

end NameCheck
