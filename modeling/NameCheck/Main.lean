import NameCheck.Command.Run
import NameCheck.Log.Clock
import Std.Time.DateTime.Timestamp

/-!
The command line: it takes the part of the file system that a request is about as a tree, runs the program on it
and carries out what the program leaves behind.
-/
namespace NameCheck.Console

open Files (Content Entry World)

/-- The reason that the system gives for an error. -/
def reasonOf : IO.Error → String
  | .permissionDenied _ code details | .inappropriateType _ code details | .otherError code details =>
    details ++ " (os error " ++ toString code ++ ")"
  | e => toString e

def readContent (path : Files.Path) : IO Content := do
  try
    match String.fromUTF8? (← IO.FS.readBinFile path) with
    | some text => return .text text
    | none => return .unreadable "stream did not contain valid UTF-8"
  catch e => return .unreadable (reasonOf e)

/-- Whether a file matters: sources and configurations. -/
def matters (name : String) : Bool := Files.isSourceName name || name == Config.fileName

/-- What a path leads to. Below a directory, links are left out, and so is what no command looks at. -/
partial def readEntry (path : Files.Path) : IO (Option Entry) := do
  try
    let place ← IO.FS.realPath path
    if ← place.isDir then
      let children ← (← place.readDir).toList.filterMapM fun child => do
        let inside := path.join child.fileName
        let kind := (← child.path.symlinkMetadata).type
        if kind == .dir && !Files.isSkipped child.fileName || kind == .file && matters child.fileName then
          return (← readEntry inside).map (child.fileName, ·)
        return none
      return some (.directory children)
    return some (.file (← readContent path))
  catch _ => return none

/-- Adds what stands above a path: the directories on the way, and the configurations in them. -/
def addAbove (world : World) (path : Files.Path) : IO World :=
  path.ancestors.foldlM (fun world directory => do
    let config : Files.Path := Files.Path.join directory Config.fileName
    try
      let place ← IO.FS.realPath (if directory.isEmpty then "." else directory)
      let world := if ← place.isDir then world.makeDirectory (world.namesOf directory) else world
      if ← (← IO.FS.realPath config).isDir then return world.put config (.directory [])
      return world.put config (.file (← readContent config))
    catch _ => return world) world

/-- The part of the file system that the arguments are about. -/
def worldFor (arguments : List String) : IO World := do
  let current := (← IO.currentDir).toString
  let world ← addAbove { current := Files.Path.names current } current
  match Command.readArguments arguments with
  | .run { request := .check options, .. } =>
    let world ← addAbove world options.path
    return ((← readEntry options.path).map (world.put options.path)).getD world
  | _ => return world

/-- Writes the configuration of the current directory, if a command changed it. -/
def save (before after : World) : IO Unit := do
  let path := before.currentPath.join Config.fileName
  match after.file? path with
  | some (.text text) => if before.file? path ≠ some (.text text) then IO.FS.writeFile path text
  | _ => return

def now : IO String := do
  return Log.momentText ((← Std.Time.Timestamp.now).toNanosecondsSinceUnixEpoch.toInt.toNat / 1000)

end NameCheck.Console

open NameCheck in
/-- Runs the program. An analysis that breaks off ends with a status of its own. -/
def main (arguments : List String) : IO UInt32 := do
  let environment : Command.Environment :=
    { noColour := ← IO.getEnv "NO_COLOR"
      forceColour := ← IO.getEnv "CLICOLOR_FORCE"
      allowColour := ← IO.getEnv "CLICOLOR"
      terminal := ← (← IO.getStdout).isTty
      logDirectives := ← IO.getEnv "RUST_LOG" }
  let world ← Console.worldFor arguments
  match Command.run? environment (← Console.now) world arguments with
  | none => return 101
  | some finish =>
    Console.save world finish.world
    IO.eprint finish.errors
    IO.print finish.output
    return finish.status.toUInt32
