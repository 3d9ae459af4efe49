import NameCheck.Rule.Basic
import NameCheck.Settings

/-!
Registries: rules in the order in which they report, each with what the settings make of it.
-/
namespace NameCheck

/-- A registered rule: whether it runs and the severity that replaces its own. -/
structure Registered where
  rule : Rule
  enabled : Bool := true
  severity : Option Severity := none

namespace Registered

/-- Whether the settings leave the category of a rule on. -/
def categoryOn (settings : Settings) (category : Category) : Bool :=
  (match category with
    | .naming => settings.naming
    | .hooks => settings.hooks).getD true

/-- The rule under new settings; earlier ones leave nothing behind. -/
def configure (settings : Settings) (r : Registered) : Registered :=
  let metadata := r.rule.metadata
  { r with
    enabled := categoryOn settings metadata.category && !settings.disabled.any metadata.answersTo
    severity := (settings.severityOf? metadata.id).or (settings.severityOf? metadata.name) }

/-- A diagnostic with the severity that the settings give it. -/
def recolour (severity : Option Severity) (d : Diagnostic) : Diagnostic :=
  { d with severity := severity.getD d.severity }

def run? (r : Registered) (script : Script) : Option (List Diagnostic) :=
  (r.rule.check? script).map (·.map (recolour r.severity))

end Registered

/-- Rules in the order in which they were registered. -/
structure Registry where
  entries : List Registered := []

namespace Registry

/-- Adds a rule at the end. -/
def register (registry : Registry) (rule : Rule) : Registry := ⟨registry.entries ++ [{ rule := rule }]⟩

def configure (registry : Registry) (settings : Settings) : Registry :=
  ⟨registry.entries.map (Registered.configure settings)⟩

def rules (registry : Registry) : List Rule := registry.entries.map (·.rule)

def get? (registry : Registry) (id : String) : Option Rule := registry.rules.find? (·.metadata.id == id)

/-- The first rule with an id or a name. -/
def find? (registry : Registry) (ref : String) : Option Rule := registry.rules.find? (·.metadata.answersTo ref)

def isEnabled (registry : Registry) (ref : String) : Bool :=
  registry.entries.any fun r => r.enabled && r.rule.metadata.answersTo ref

def run? (registry : Registry) (script : Script) : Option (List Diagnostic) :=
  ((registry.entries.filter Registered.enabled).mapM (Registered.run? · script)).map List.flatten

end Registry

end NameCheck
