import NameCheck.Config.Decode
import NameCheck.Files.Tree

/-!
Which configuration applies to a path: the nearest configuration file at or above it.
-/
namespace NameCheck.Config

def fileName : String := "namelint.toml"

/-- Why a configuration file cannot be used. -/
inductive Problem where
  | unreadable (path : Files.Path) (reason : String)
  | invalid (path : Files.Path) (fault : Fault)
deriving Inhabited

def Problem.message : Problem → String
  | .unreadable path reason => "Failed to read config file '" ++ path ++ "': " ++ reason
  | .invalid path fault => "Invalid TOML in '" ++ path ++ "': " ++ fault.message

def load (path : Files.Path) : Files.Content → Except Problem Loaded
  | .unreadable reason => throw (.unreadable path reason)
  | .text text => (ofText text).mapError (.invalid path)

/-- The nearest configuration file at or above a path, and its content. What has the name of a configuration
file and is no file is passed over. -/
def find? (world : Files.World) (start : Files.Path) : Option (Files.Path × Files.Content) :=
  start.ancestors.findSome? fun directory =>
    let path := directory.join fileName
    (world.file? path).map fun content => (path, content)

/-- How the configuration for a path came about. -/
inductive Choice where
  | none
  | found (path : Files.Path) (result : Loaded)
  | unusable (problem : Problem)
deriving Inhabited

def choose (world : Files.World) (start : Files.Path) : Choice :=
  match find? world start with
  | .none => .none
  | some (path, content) =>
    match load path content with
    | .ok result => .found path result
    | .error problem => .unusable problem

/-- The settings of a choice: the defaults if there is no usable file, with the problem as a warning. -/
def Choice.result : Choice → Loaded
  | .none => {}
  | .found _ result => result
  | .unusable problem => { warnings := [problem.message] }

end NameCheck.Config
