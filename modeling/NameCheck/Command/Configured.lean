import NameCheck.Command.Outcome
import NameCheck.Config.Lookup

/-!
What the log says about the configuration of a command.
-/
namespace NameCheck.Command

/-- The event of a choice of configuration, if there was anything to choose. -/
def configEvent? : Config.Choice → Option Log.Event
  | .none => none
  | .found path result =>
    some {
      level := .debug, source := "namelint_core::config", message := "loaded config"
      data := [("path", .shown path), ("warnings", .count result.warnings.length)] }
  | .unusable problem =>
    some {
      level := .warn, source := "namelint_core::config", message := "ignoring unusable config file"
      data := [("error", .shown problem.message)] }

def configNotices (choice : Config.Choice) : List Notice := (configEvent? choice).toList.map .event

end NameCheck.Command
