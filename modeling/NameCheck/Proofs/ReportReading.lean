import NameCheck.Proofs.ExitStatus
import NameCheck.Proofs.JsonReading
import NameCheck.Report.Structured

/-!
What the report for programs says. `Report.contents?` finds the file count and the diagnostics in a report by the names
of their members; it finds what the report was made of (`contents?_structured`). As reports are read back from their
texts, a text fixes the file count and all diagnostics.
-/
namespace NameCheck

/-! ## Members of values -/

namespace Json

/-- The value of the member with a key. -/
def member? (key : String) : Json → Option Json
  | .object members => members.lookup key
  | _ => none

def text? : Json → Option String
  | .text value => some value
  | _ => none

def number? : Json → Option Nat
  | .number value => some value
  | _ => none

def items? : Json → Option (List Json)
  | .array items => some items
  | _ => none

/-- The text of a member that may be missing; none if it is there and no text. -/
def optionalText? (key : String) (v : Json) : Option (Option String) :=
  match v.member? key with
  | none => some none
  | some value => value.text?.map some

end Json

namespace Report

/-- What a report says of a diagnostic. -/
structure Entry where
  diagnostic : Diagnostic
  ruleName : Option String
deriving DecidableEq, Repr, Inhabited

/-- What a report says: the number of files and the entries in their order. -/
structure Contents where
  files : Nat
  entries : List Entry
deriving DecidableEq, Repr, Inhabited

def position? (v : Json) : Option Source.Position := do
  return ⟨← (← v.member? "line").number?, ← (← v.member? "column").number?⟩

def entryOf? (v : Json) : Option Entry := do
  let ruleId ← (← v.member? "rule_id").text?
  let severity ← Severity.ofName? (← (← v.member? "severity").text?)
  let message ← (← v.member? "message").text?
  let file ← (← v.member? "file").text?
  let start ← position? (← v.member? "start")
  let stop ← position? (← v.member? "end")
  let suggestion ← v.optionalText? "suggestion"
  let ruleName ← v.optionalText? "rule_name"
  return ⟨{ ruleId, severity, message, file, range := ⟨start, stop⟩, suggestion }, ruleName⟩

/-- The contents of a report. -/
def contents? (report : Json) : Option Contents := do
  let files ← (← report.member? "files").number?
  let items ← (← report.member? "diagnostics").items?
  return ⟨files, ← items.mapM entryOf?⟩

/-- The entry that is written for a diagnostic. -/
def entryFor (registry : Registry) (d : Diagnostic) : Entry :=
  ⟨d, (registry.get? d.ruleId).map (·.metadata.name)⟩

theorem ofName?_name (severity : Severity) : Severity.ofName? severity.name = some severity := by
  cases severity <;> decide

theorem position?_positionJson (p : Source.Position) : position? (positionJson p) = some p := rfl

theorem entryOf?_diagnosticJson (registry : Registry) (d : Diagnostic) :
    entryOf? (diagnosticJson registry d) = some (entryFor registry d) := by
  obtain ⟨ruleId, severity, message, file, ⟨start, stop⟩, suggestion⟩ := d
  cases found : registry.get? ruleId <;> cases suggestion <;>
    simp [entryOf?, entryFor, diagnosticJson, optionalMember, found, Json.member?, Json.text?, Json.optionalText?,
      List.lookup_cons, ofName?_name, position?_positionJson]

theorem mapM_entryOf? (registry : Registry) (diagnostics : List Diagnostic) :
    diagnostics.mapM (entryOf? ∘ diagnosticJson registry) = some (diagnostics.map (entryFor registry)) := by
  induction diagnostics with
  | nil => rfl
  | cons d rest ih => simp [entryOf?_diagnosticJson, ih]

theorem contents?_structured (registry : Registry) (files : Nat) (diagnostics : List Diagnostic) :
    contents? (structured registry files diagnostics) = some ⟨files, diagnostics.map (entryFor registry)⟩ := by
  simp [contents?, structured, Json.member?, List.lookup_cons, Json.number?, Json.items?, mapM_entryOf?]

/-- What a report is made of is found in its text. -/
theorem contents?_renderStructured (registry : Registry) (files : Nat) (diagnostics : List Diagnostic) :
    (Json.read? (renderStructured registry files diagnostics)).bind contents? =
      some ⟨files, diagnostics.map (entryFor registry)⟩ := by
  rw [renderStructured, Json.read?_pretty, Option.bind_some, contents?_structured]

/-- The name of a rule is given just for the ids of built-in rules. -/
theorem ruleName_entryFor (d : Diagnostic) (name : String) :
    (entryFor .builtin d).ruleName = some name ↔
      ∃ rule ∈ builtinRules, rule.metadata.id = d.ruleId ∧ rule.metadata.name = name := by
  rw [entryFor, Option.map_eq_some_iff]
  constructor
  · rintro ⟨found, is, named⟩
    have id := List.find?_some is
    obtain ⟨rule, builtin, rfl⟩ := List.mem_map.mp (show found ∈ builtinRules.map ModuleRule.toRule from
      List.mem_of_find?_eq_some is)
    exact ⟨rule, builtin, by simpa using id, named⟩
  · rintro ⟨rule, builtin, id, named⟩
    exact ⟨rule.toRule, id ▸ get?_ofSettings {} builtin, named⟩

/-- The report for programs is a text of the grammar, and from its text the number of files and every diagnostic are
found again, in order, with the names of the built-in rules and of no others. So two different lists of diagnostics
never have the same text. -/
theorem report_reads_back (files : Nat) (diagnostics : List Diagnostic) :
    Json.Spells (.item (structured .builtin files diagnostics)) (renderStructured .builtin files diagnostics).toList ∧
      (Json.read? (renderStructured .builtin files diagnostics)).bind contents? =
        some ⟨files, diagnostics.map (entryFor .builtin)⟩ ∧
      (∀ d name, (entryFor .builtin d).ruleName = some name ↔
        ∃ rule ∈ builtinRules, rule.metadata.id = d.ruleId ∧ rule.metadata.name = name) ∧
      ∀ otherFiles others,
        renderStructured .builtin files diagnostics = renderStructured .builtin otherFiles others ↔
          files = otherFiles ∧ diagnostics = others := by
  refine ⟨Json.spells_pretty _, contents?_renderStructured _ files diagnostics, ruleName_entryFor, ?_⟩
  intro otherFiles others
  refine ⟨fun same => ?_, fun ⟨sameFiles, sameList⟩ => by rw [sameFiles, sameList]⟩
  have read := contents?_renderStructured .builtin files diagnostics
  rw [same, contents?_renderStructured] at read
  obtain ⟨sameFiles, sameEntries⟩ := Contents.mk.inj (Option.some.inj read)
  have diagnosticsOf : ∀ list : List Diagnostic, (list.map (entryFor .builtin)).map Entry.diagnostic = list :=
    fun list => by simp [Function.comp_def, entryFor]
  rw [← diagnosticsOf diagnostics, ← diagnosticsOf others, sameEntries]
  exact ⟨sameFiles.symm, rfl⟩

end Report

end NameCheck
