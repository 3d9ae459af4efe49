import NameCheck.Command.Outcome
import NameCheck.Config.Lookup

/-!
The command that makes a configuration to start with.
-/
namespace NameCheck.Command.Init

def starter : String :=
  "# namelint looks for this file from the checked path upwards.\n\n[rules]\n# Rules to skip, by id or name\n" ++
  "# disabled = [\"svg-file-name\"]\n\n# Rule categories\nnaming = true\nhooks = true\n\n" ++
  "# Per-rule severity: error, warning, info or hint\n# [rules.severity]\n# hook-func-name = \"error\"\n" ++
  "# N002 = \"hint\"\n"

def writtenEvent (path : Files.Path) (force : Bool) : Log.Event :=
  { level := .debug, source := "namelint::commands::init", message := "wrote starter config"
    data := [("path", .shown path), ("force", .flag force)] }

/-- Writes a configuration to the current directory. What is there stays, unless it is a file that may be
replaced. -/
def run (world : Files.World) (force : Bool) : Outcome :=
  let directory := world.currentPath
  let path := directory.join Config.fileName
  let written : Outcome :=
    { output := [.strong .green "✓", .plain " wrote ", .coloured .cyan path, .plain "\n"]
      notices := [.event (writtenEvent path force)]
      world := world.write (world.current ++ [Config.fileName]) (.text starter) }
  match world.find? path, force with
  | none, _ => written
  | some (.file _), true => written
  | some (.directory _), true =>
    { status := 1, world
      notices := [failure ("writing " ++ path ++ "\n\nCaused by:\n    Is a directory (os error 21)")] }
  | some _, false =>
    { status := 1, world
      notices := [failure (Config.fileName ++ " already exists in " ++ directory ++ ". Pass --force to replace it.")] }

end NameCheck.Command.Init
