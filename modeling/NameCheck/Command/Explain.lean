import NameCheck.Analysis
import NameCheck.Command.Configured
import NameCheck.Text.Lines

/-!
The command that explains a rule.
-/
namespace NameCheck.Command.Explain

def field (label : String) (value : Report.Piece) : Report.Page :=
  [.plain "  ", .coloured .cyan label, .plain ": ", value, .plain "\n"]

def examplesPage (examples : String) : Report.Page :=
  [.plain "\n  ", .coloured .cyan "Examples", .plain ":\n"] ++
    (Text.lines examples.toList).map fun line => .plain ("    " ++ String.ofList line ++ "\n")

def page (registry : Registry) (m : Metadata) : Report.Page :=
  [.plain "\n", .bold ("Rule " ++ m.id), .plain "\n\n"] ++
    field "Name" (.plain m.name) ++ field "Description" (.plain m.description) ++
    field "Category" (.plain m.category.name) ++
    field "Severity" (.coloured (Report.severityColour m.severity) m.severity.name) ++
    (m.examples.map examplesPage).getD [] ++ [.plain "\n"] ++
    field "Status" (if registry.isEnabled m.id then .coloured .green "enabled" else .coloured .red "disabled") ++
    [.plain "\n"]

def unknown (registry : Registry) (ref : String) : String :=
  "Unknown rule '" ++ ref ++ "'. Available rules: " ++
    String.intercalate ", " (registry.rules.map fun r => r.metadata.id ++ " (" ++ r.metadata.name ++ ")")

def run (world : Files.World) (ref : String) : Outcome :=
  let choice := Config.choose world world.currentPath
  let registry := Registry.ofSettings choice.result.settings
  match registry.find? ref with
  | some rule => { output := page registry rule.metadata, notices := configNotices choice, world }
  | none => { status := 1, notices := configNotices choice ++ [failure (unknown registry ref)], world }

end NameCheck.Command.Explain
