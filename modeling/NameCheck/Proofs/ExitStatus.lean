import NameCheck.Command.Check
import NameCheck.Proofs.Counts
import NameCheck.Proofs.Positions
import NameCheck.Proofs.Suppressions

/-!
How a check ends. What decides it is said about files alone: a file has an error or a violation of some severity that no
comment switches off (`HasError`, `HasViolation`). The diagnostics of a severity that a check reports come from such
files just if the severity reaches the threshold (`reports_iff`), and the exit status only asks which severities are
reported (`fails_iff`).
-/
namespace NameCheck

open Syntax (Module)

attribute [local instance] Classical.propDecidable

/-! ## What settings make of rules -/

/-- The severity that settings give to a rule, under its id or else under its name. -/
def Settings.givenSeverity? (settings : Settings) (metadata : Metadata) : Option Severity :=
  match settings.severityOf? metadata.id with
  | some severity => some severity
  | none => settings.severityOf? metadata.name

/-- The severity of a rule under settings: the one that they give it, else its own. -/
def Settings.effectiveSeverity (settings : Settings) (metadata : Metadata) : Severity :=
  (settings.givenSeverity? metadata).getD metadata.severity

/-- What settings say about a category of rules, if anything. -/
def Settings.categorySwitch (settings : Settings) : Category → Option Bool
  | .naming => settings.naming
  | .hooks => settings.hooks

/-- Settings leave a rule on: neither its category is switched off, nor is it switched off itself. -/
def Settings.Enables (settings : Settings) (metadata : Metadata) : Prop :=
  settings.categorySwitch metadata.category ≠ some false ∧ metadata.id ∉ settings.disabled ∧
    metadata.name ∉ settings.disabled

theorem configure_enabled (settings : Settings) (rule : Rule) :
    (Registered.configure settings { rule }).enabled = true ↔ settings.Enables rule.metadata := by
  have on : Registered.categoryOn settings rule.metadata.category = true ↔
      settings.categorySwitch rule.metadata.category ≠ some false := by
    have asked : Registered.categoryOn settings rule.metadata.category =
        (settings.categorySwitch rule.metadata.category).getD true := by
      cases rule.metadata.category <;> rfl
    rw [asked]
    cases settings.categorySwitch rule.metadata.category with
    | none => simp
    | some value => cases value <;> simp
  have named : settings.disabled.any rule.metadata.answersTo = false ↔
      rule.metadata.id ∉ settings.disabled ∧ rule.metadata.name ∉ settings.disabled := by
    simp only [List.any_eq_false, Metadata.answersTo, Bool.or_eq_true, beq_iff_eq, not_or]
    constructor
    · intro others
      exact ⟨fun member => (others _ member).1 rfl, fun member => (others _ member).2 rfl⟩
    · rintro ⟨id, name⟩ ref member
      exact ⟨fun same => id (same ▸ member), fun same => name (same ▸ member)⟩
  simp only [Registered.configure, Bool.and_eq_true, Bool.not_eq_true', on, named, Settings.Enables]

instance (settings : Settings) (metadata : Metadata) : Decidable (settings.Enables metadata) :=
  inferInstanceAs (Decidable (_ ∧ _ ∧ _))

/-- The entry of a rule under settings. -/
def Settings.entry (settings : Settings) (rule : Rule) : Registered where
  rule := rule
  enabled := settings.Enables rule.metadata
  severity := settings.givenSeverity? rule.metadata

theorem Settings.enabled_entry {settings : Settings} {rule : Rule} :
    (settings.entry rule).enabled = true ↔ settings.Enables rule.metadata := decide_eq_true_iff

theorem configure_eq (settings : Settings) (rule : Rule) :
    Registered.configure settings { rule } = settings.entry rule := by
  have enabled : (Registered.configure settings { rule }).enabled = decide (settings.Enables rule.metadata) := by
    rw [Bool.eq_iff_iff, configure_enabled, decide_eq_true_iff]
  have severity : (Registered.configure settings { rule }).severity = settings.givenSeverity? rule.metadata := by
    unfold Settings.givenSeverity?
    simp only [Registered.configure]
    cases settings.severityOf? rule.metadata.id <;> rfl
  calc Registered.configure settings { rule }
    _ = { rule, enabled := (Registered.configure settings { rule }).enabled
          severity := (Registered.configure settings { rule }).severity } := rfl
    _ = settings.entry rule := by rw [enabled, severity, Settings.entry]

theorem entries_ofSettings (settings : Settings) :
    (Registry.ofSettings settings).entries = builtinRules.map fun rule => settings.entry rule.toRule := by
  simp only [← configure_eq]
  rfl

/-- The rules of a configured registry are found by their ids. -/
theorem get?_ofSettings (settings : Settings) {rule : ModuleRule} (builtin : rule ∈ builtinRules) :
    (Registry.ofSettings settings).get? rule.metadata.id = some rule.toRule := by
  have rules : (Registry.ofSettings settings).rules = builtinRules.map ModuleRule.toRule := rfl
  rw [Registry.get?, rules]
  simp only [builtinRules, List.mem_cons, List.not_mem_nil, or_false] at builtin
  rcases builtin with rfl | rfl | rfl | rfl <;> rfl

theorem get?_parseId (settings : Settings) : (Registry.ofSettings settings).get? Analysis.parseId = none := rfl

/-- The rules that settings leave on run, and what they find gets the severity that settings give them. -/
theorem run?_ofSettings_eq (settings : Settings) (script : Script) :
    (Registry.ofSettings settings).run? script =
      ((builtinRules.filter fun rule => settings.Enables rule.metadata).mapM fun (rule : ModuleRule) =>
        (rule.check? script).map (·.map (Registered.recolour (settings.givenSeverity? rule.metadata)))).map
          List.flatten := by
  rw [Registry.run?, entries_ofSettings, List.filter_map, List.mapM_map]
  rfl

/-! ## Diagnostics of one file -/

namespace Command.Check

/-- No comment of a file switches a reference off on a line. -/
def Readable.Heeds (file : Readable) (line : Nat) (ref : String) : Prop :=
  ¬ SwitchesOff (lineComments file.path file.text) line ref

/-- A file has an error of its text that no comment switches off. -/
def HasError (file : Readable) : Prop :=
  ∃ script, file.script? = some script ∧ ∃ e ∈ script.errors, file.Heeds e.line "PARSE"

/-- A file has a violation of a rule that settings leave on and give a severity to, and no comment switches it off, be
it by the id or by the name of the rule. -/
def HasViolation (settings : Settings) (severity : Severity) (file : Readable) : Prop :=
  ∃ script module, file.script? = some script ∧ script.module = some module ∧
    ∃ rule ∈ builtinRules, settings.Enables rule.metadata ∧ settings.effectiveSeverity rule.metadata = severity ∧
      ∃ violation ∈ rule.violations module, ∃ position, script.location? violation.span = some position ∧
        file.Heeds position.line rule.metadata.id ∧ file.Heeds position.line rule.metadata.name

/-- A file that does not start with a byte-order mark. -/
def Unmarked (file : Readable) : Prop := file.text.toList.head? ≠ some (Char.ofNat 0xfeff)

theorem Unmarked.withoutMark {file : Readable} (unmarked : Unmarked file) :
    Script.withoutMark file.text.toList = file.text.toList := withoutMark_unmarked unmarked

variable {file : Readable} {script : Script} {rule : ModuleRule}

/-- A rule reports a diagnostic of a script under settings: it is about a violation. -/
def Reports (settings : Settings) (script : Script) (rule : ModuleRule) (d : Diagnostic) : Prop :=
  ∃ module, script.module = some module ∧ ∃ violation ∈ rule.violations module, ∃ range,
    script.range? violation.span = some range ∧
      d = { ruleId := rule.metadata.id, severity := settings.effectiveSeverity rule.metadata,
            message := violation.message, file := script.filename, range, suggestion := violation.suggestion }

theorem run?_rule (settings : Settings) (unmarked : Unmarked file) (read : file.script? = some script)
    (builtin : rule ∈ builtinRules) :
    ∃ found, (rule.check? script).map (·.map (Registered.recolour (settings.givenSeverity? rule.metadata))) =
        some found ∧ ∀ d, d ∈ found ↔ Reports settings script rule d := by
  obtain ⟨found, checked, are⟩ := check?_builtin read unmarked builtin
  refine ⟨_, by rw [checked, Option.map_some], fun d => ?_⟩
  rw [List.mem_map]
  constructor
  · rintro ⟨located, member, rfl⟩
    obtain ⟨module, has, violation, violated, at_⟩ := (are located).mp member
    obtain ⟨range, stands, rfl⟩ := Option.map_eq_some_iff.mp at_
    exact ⟨module, has, violation, violated, range, stands, rfl⟩
  · rintro ⟨module, has, violation, violated, range, stands, rfl⟩
    exact ⟨_, (are _).mpr ⟨module, has, violation, violated, Option.map_eq_some_iff.mpr ⟨range, stands, rfl⟩⟩, rfl⟩

/-- The rules that settings leave on all answer for a script. -/
theorem run?_ofSettings (settings : Settings) (unmarked : Unmarked file) (read : file.script? = some script) :
    ∃ found, (Registry.ofSettings settings).run? script = some found ∧ ∀ d, d ∈ found ↔
      ∃ rule ∈ builtinRules, settings.Enables rule.metadata ∧ Reports settings script rule d := by
  rw [run?_ofSettings_eq]
  have answered : ∀ rule ∈ builtinRules.filter fun rule => settings.Enables rule.metadata, ∃ answer,
      (rule.check? script).map (·.map (Registered.recolour (settings.givenSeverity? rule.metadata))) = some answer := by
    intro rule member
    obtain ⟨answer, runs, -⟩ := run?_rule settings unmarked read (List.mem_filter.mp member).1
    exact ⟨answer, runs⟩
  obtain ⟨answers, all⟩ := mapM_answered answered
  refine ⟨answers.flatten, by rw [all, Option.map_some], fun d => ?_⟩
  rw [mem_flatten_of_mapM all]
  constructor
  · rintro ⟨rule, member, answer, answered, inside⟩
    obtain ⟨builtin, enabled⟩ := List.mem_filter.mp member
    obtain ⟨answer', runs, are⟩ := run?_rule settings unmarked read builtin
    obtain rfl : answer = answer' := Option.some.inj (answered.symm.trans runs)
    exact ⟨rule, builtin, of_decide_eq_true enabled, (are d).mp inside⟩
  · rintro ⟨rule, builtin, enabled, reports⟩
    obtain ⟨answer, runs, are⟩ := run?_rule settings unmarked read builtin
    exact ⟨rule, List.mem_filter.mpr ⟨builtin, decide_eq_true enabled⟩, answer, runs, (are d).mpr reports⟩

theorem isDisabled_eq_false (read : file.script? = some script) (line : Nat) (ref : String) :
    script.directives.isDisabled line ref = false ↔ file.Heeds line ref := by
  rw [read?_directives read, ← Bool.not_eq_true, Directives.isDisabled_ofComments, Readable.Heeds]

/-- An error of a script is left out just if a comment switches it off under the id of errors. -/
theorem isSuppressed_error (settings : Settings) (read : file.script? = some script) (e : ParseError) :
    Analysis.isSuppressed (Registry.ofSettings settings) script (Analysis.ofError script e) = false ↔
      file.Heeds e.line "PARSE" := by
  have unnamed : (Registry.ofSettings settings).get? (Analysis.ofError script e).ruleId = none := get?_parseId settings
  rw [Analysis.isSuppressed, unnamed, Bool.or_false, isDisabled_eq_false read]
  rfl

/-- What a rule finds is left out just if a comment switches it off under the id or the name of the rule. -/
theorem isSuppressed_violation (settings : Settings) (read : file.script? = some script)
    (builtin : rule ∈ builtinRules) {d : Diagnostic} (of : d.ruleId = rule.metadata.id) :
    Analysis.isSuppressed (Registry.ofSettings settings) script d = false ↔
      file.Heeds d.line rule.metadata.id ∧ file.Heeds d.line rule.metadata.name := by
  rw [Analysis.isSuppressed, of, get?_ofSettings settings builtin, Bool.or_eq_false_iff, isDisabled_eq_false read,
    isDisabled_eq_false read, ModuleRule.metadata_toRule]

/-- The line of a violation is that on which its range starts. -/
theorem location?_range {span : Span} {range : Source.Range}
    (stands : script.range? span = some range) : script.location? span = some range.start := by
  obtain ⟨start, starts, more⟩ := Option.bind_eq_some_iff.mp stands
  obtain ⟨stop, -, is⟩ := Option.bind_eq_some_iff.mp more
  obtain rfl : (⟨start, stop⟩ : Source.Range) = range := Option.some.inj is
  exact starts

/-- The analysis of a file has diagnostics of a severity just if the file has violations of that severity or, for
errors, errors of its text. -/
theorem analysis_severities (settings : Settings) (unmarked : Unmarked file) (read : file.script? = some script) :
    ∃ found, Analysis.run? (Registry.ofSettings settings) script = some found ∧
      ∀ severity, (∃ d ∈ found, d.severity = severity) ↔
        (severity = .error ∧ HasError file) ∨ HasViolation settings severity file := by
  obtain ⟨found, runs, are⟩ := run?_ofSettings settings unmarked read
  refine ⟨_, by rw [Analysis.run?, runs, Option.map_some], fun severity => ?_⟩
  simp only [List.mem_filter, List.mem_append, List.mem_map, Bool.not_eq_true']
  constructor
  · rintro ⟨d, ⟨⟨e, error, rfl⟩ | member, kept⟩, rfl⟩
    · exact .inl ⟨rfl, script, read, e, error, (isSuppressed_error settings read e).mp kept⟩
    · obtain ⟨rule, builtin, enabled, module, has, violation, violated, range, stands, rfl⟩ := (are d).mp member
      exact .inr ⟨script, module, read, has, rule, builtin, enabled, rfl, violation, violated, range.start,
        location?_range stands, (isSuppressed_violation settings read builtin rfl).mp kept⟩
  · rintro (⟨rfl, script', read', e, error, heeded⟩ |
      ⟨script', module, read', has, rule, builtin, enabled, rfl, violation, violated, position, stands, heeded⟩)
    · obtain rfl : script = script' := Option.some.inj (read.symm.trans read')
      exact ⟨_, ⟨.inl ⟨e, error, rfl⟩, (isSuppressed_error settings read e).mpr heeded⟩, rfl⟩
    · obtain rfl : script = script' := Option.some.inj (read.symm.trans read')
      obtain ⟨range, ranges⟩ := range?_violation read unmarked.withoutMark has builtin violated
      obtain rfl : range.start = position := Option.some.inj ((location?_range ranges).symm.trans stands)
      exact ⟨_, ⟨.inr ((are _).mpr ⟨rule, builtin, enabled, module, has, violation, violated, range, ranges, rfl⟩),
        (isSuppressed_violation settings read builtin rfl).mpr heeded⟩, rfl⟩

/-! ## Diagnostics of all files -/

variable {files others : List Files.SourceFile} {found : List Diagnostic}

theorem diagnostics?_eq_none (settings : Settings) (least : Severity)
    (unmarked : ∀ file ∈ readable files, Unmarked file) :
    diagnostics? (Registry.ofSettings settings) least files = none ↔ ∃ file ∈ readable files, file.script? = none := by
  rw [diagnostics?, Option.map_eq_none_iff, mapM_eq_none_iff]
  refine exists_congr fun file => and_congr_right fun member => ?_
  cases read : file.script? with
  | none => simp
  | some script =>
    obtain ⟨found, runs, -⟩ := analysis_severities settings (unmarked file member) read
    simp [runs]

/-- A check reports a severity just if the severity reaches the threshold and some file has it. -/
theorem reports_iff (settings : Settings) (least : Severity) (unmarked : ∀ file ∈ readable files, Unmarked file)
    (reported : diagnostics? (Registry.ofSettings settings) least files = some found) (severity : Severity) :
    (∃ d ∈ found, d.severity = severity) ↔ severity.atLeast least = true ∧
      ∃ file ∈ readable files, (severity = .error ∧ HasError file) ∨ HasViolation settings severity file := by
  obtain ⟨answers, all, rfl⟩ := Option.map_eq_some_iff.mp reported
  simp only [List.mem_filter, mem_flatten_of_mapM all]
  constructor
  · rintro ⟨d, ⟨⟨file, member, answer, answered, inside⟩, reaches⟩, rfl⟩
    obtain ⟨script, read, runs⟩ := Option.bind_eq_some_iff.mp answered
    obtain ⟨answer', runs', severities⟩ := analysis_severities settings (unmarked file member) read
    obtain rfl : answer = answer' := Option.some.inj (runs.symm.trans runs')
    exact ⟨reaches, file, member, (severities d.severity).mp ⟨d, inside, rfl⟩⟩
  · rintro ⟨reaches, file, member, has⟩
    obtain ⟨script, read⟩ : ∃ script, file.script? = some script := by
      rcases has with ⟨-, script, read, -⟩ | ⟨script, -, read, -⟩ <;> exact ⟨script, read⟩
    obtain ⟨answer, runs, severities⟩ := analysis_severities settings (unmarked file member) read
    obtain ⟨d, inside, rfl⟩ := (severities severity).mpr has
    exact ⟨d, ⟨⟨file, member, answer, Option.bind_eq_some_iff.mpr ⟨script, read, runs⟩, inside⟩, reaches⟩, rfl⟩

/-! ## The exit status -/

/-- The exit status asks for errors and, if told to, for warnings. -/
theorem fails_iff (failOnWarnings : Bool) (found : List Diagnostic) :
    fails failOnWarnings found = true ↔ (∃ d ∈ found, d.severity = .error) ∨
      failOnWarnings = true ∧ ∃ d ∈ found, d.severity = .warning := by
  have counted := Report.counted_of found
  simp [fails, counted.errors, counted.warnings, List.countP_pos_iff]

/-- What makes a check of some files fail. -/
def MustFail (settings : Settings) (least : Severity) (failOnWarnings : Bool) (files : List Files.SourceFile) : Prop :=
  ∃ file ∈ readable files, HasError file ∨ HasViolation settings .error file ∨
    (failOnWarnings = true ∧ least ≠ .error ∧ HasViolation settings .warning file)

theorem fails_iff_mustFail (settings : Settings) (least : Severity) (failOnWarnings : Bool)
    (unmarked : ∀ file ∈ readable files, Unmarked file)
    (reported : diagnostics? (Registry.ofSettings settings) least files = some found) :
    fails failOnWarnings found = true ↔ MustFail settings least failOnWarnings files := by
  have error : Severity.atLeast .error least = true := by cases least <;> rfl
  have warning : Severity.atLeast .warning least = true ↔ least ≠ .error := by cases least <;> decide
  have reports := reports_iff settings least unmarked reported
  rw [fails_iff, reports .error, reports .warning, error, warning]
  simp only [true_and, reduceCtorEq, false_and, false_or]
  constructor
  · rintro (⟨file, member, hasError | hasViolation⟩ | ⟨asked, reaches, file, member, hasViolation⟩)
    · exact ⟨file, member, .inl hasError⟩
    · exact ⟨file, member, .inr (.inl hasViolation)⟩
    · exact ⟨file, member, .inr (.inr ⟨asked, reaches, hasViolation⟩)⟩
  · rintro ⟨file, member, hasError | hasViolation | ⟨asked, reaches, hasViolation⟩⟩
    · exact .inl ⟨file, member, .inl hasError⟩
    · exact .inl ⟨file, member, .inr hasViolation⟩
    · exact .inr ⟨asked, reaches, file, member, hasViolation⟩

/-- The exit status that files ask for. There is none if the parser breaks off for one of them, so that it is no script
at all. -/
noncomputable def expectedStatus? (settings : Settings) (least : Severity) (failOnWarnings : Bool)
    (files : List Files.SourceFile) : Option Nat :=
  if ∃ file ∈ readable files, file.script? = none then none
  else some (if MustFail settings least failOnWarnings files then 1 else 0)

theorem status_eq_expected (settings : Settings) (least : Severity) (failOnWarnings : Bool)
    (unmarked : ∀ file ∈ readable files, Unmarked file) :
    (diagnostics? (Registry.ofSettings settings) least files).map (status failOnWarnings) =
      expectedStatus? settings least failOnWarnings files := by
  unfold expectedStatus?
  split
  · next broken => rw [(diagnostics?_eq_none settings least unmarked).mpr broken, Option.map_none]
  · next answers =>
    cases reported : diagnostics? (Registry.ofSettings settings) least files with
    | none => exact absurd ((diagnostics?_eq_none settings least unmarked).mp reported) answers
    | some found =>
      simp only [Option.map_some, status, fails_iff_mustFail settings least failOnWarnings unmarked reported]

/-- The status that files ask for depends on those that can be read, not on their order. -/
theorem expectedStatus?_congr (settings : Settings) (least : Severity) (failOnWarnings : Bool)
    (same : ∀ file, file ∈ readable others ↔ file ∈ readable files) :
    expectedStatus? settings least failOnWarnings others = expectedStatus? settings least failOnWarnings files := by
  have broken : (∃ file ∈ readable others, file.script? = none) ↔ ∃ file ∈ readable files, file.script? = none := by
    simp only [same]
  have fails : MustFail settings least failOnWarnings others ↔ MustFail settings least failOnWarnings files := by
    simp only [MustFail, same]
  simp only [expectedStatus?, broken, fails]

/-- A check of files without byte-order marks ends with the status 1 just if a file that can be read has an error that
no comment switches off, a violation with the severity of errors or, where warnings count and are reported, one with the
severity of warnings. Neither other files nor the order of files matter, nor does the form of the report. There is no
status just if the parser breaks off for a file (`expectedStatus?`). -/
theorem check_fails_iff (settings : Settings) (least : Severity) (failOnWarnings : Bool) (files : List Files.SourceFile)
    (unmarked : ∀ file ∈ readable files, Unmarked file) :
    (diagnostics? (Registry.ofSettings settings) least files).map (status failOnWarnings) =
        expectedStatus? settings least failOnWarnings files ∧
      (∀ others, (∀ file, file ∈ readable others ↔ file ∈ readable files) →
        (diagnostics? (Registry.ofSettings settings) least others).map (status failOnWarnings) =
          expectedStatus? settings least failOnWarnings files) ∧
      ∀ world options form, format options = .ok form → threshold options = .ok least →
        options.failOnWarnings = failOnWarnings → Files.discover? world options.path = some files →
        (Config.choose world options.path).result.settings = settings →
          (run? world options).map (·.status) = expectedStatus? settings least failOnWarnings files := by
  have decided := status_eq_expected settings least failOnWarnings unmarked
  refine ⟨decided, fun others same => ?_, ?_⟩
  · rw [status_eq_expected settings least failOnWarnings fun file member => unmarked file ((same file).mp member),
      expectedStatus?_congr settings least failOnWarnings same]
  · rintro world options form formed asked rfl discovered rfl
    rw [← decided, run?, formed, asked]
    simp only [discovered]
    cases files with
    | nil => simp [diagnostics?, readable, status, fails, Report.Tally.of]
    | cons file rest => simp [Option.map_map, Function.comp_def]

/-- A directory with a script that has an error. -/
def brokenWorld : Files.World where
  root := [("a.js", .file (.text "break"))]

/-- A check of the script that reports errors only. -/
def brokenCheck : CheckOptions := { path := "/a.js", format := "json", severity := some "error" }

theorem brokenWorld_fails : (run? brokenWorld brokenCheck).map (·.status) = some 1 := by
  let file : Readable := ⟨"/a.js", "break"⟩
  have discovered : Files.discover? brokenWorld brokenCheck.path = some [⟨"/a.js", .text "break"⟩] := by decide +kernel
  have settings : (Config.choose brokenWorld brokenCheck.path).result.settings = {} := by decide +kernel
  have lines : file.script?.map (fun script => script.errors.map (·.line)) = some [1] := by decide +kernel
  have comments : lineComments file.path file.text = [] := by decide +kernel
  obtain ⟨script, read, at_⟩ := Option.map_eq_some_iff.mp lines
  have hasError : HasError file := by
    obtain ⟨e, error, -⟩ := List.mem_map.mp (at_ ▸ List.mem_singleton_self 1)
    exact ⟨script, read, e, error, by simp [Readable.Heeds, comments, SwitchesOff]⟩
  have unmarked : ∀ file ∈ readable [⟨"/a.js", .text "break"⟩], Unmarked file := by
    simp [readable, Unmarked]
  rw [(check_fails_iff {} .error false _ unmarked).2.2 brokenWorld brokenCheck .json rfl rfl rfl discovered settings]
  have only : readable [⟨"/a.js", .text "break"⟩] = [file] := rfl
  refine (if_neg ?_).trans (congrArg some (if_pos ⟨file, only ▸ List.mem_singleton_self file, .inl hasError⟩))
  rw [only]
  simp [read]

end Command.Check

end NameCheck
