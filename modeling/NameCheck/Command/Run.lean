import NameCheck.Command.Arguments
import NameCheck.Command.Check
import NameCheck.Command.Explain
import NameCheck.Command.Help
import NameCheck.Command.Init
import NameCheck.Log.Filter

/-!
The program: from arguments, environment and files to an exit status and texts.
-/
namespace NameCheck.Command

/-! ## Commands -/

inductive Request where
  | check (options : CheckOptions)
  | init (force : Bool)
  | explain (rule : String)
deriving DecidableEq, Repr, Inhabited

def truthText (b : Bool) : String := if b then "true" else "false"

def Request.shown : Request → String
  | .check o =>
    "Check(CheckArgs \x7b path: " ++ Text.quote o.path ++ ", format: " ++ Text.quote o.format ++
      ", fail_on_warnings: " ++ truthText o.failOnWarnings ++ ", severity: " ++
      (o.severity.map fun s => "Some(" ++ Text.quote s ++ ")").getD "None" ++ ", no_color: " ++
      truthText o.noColour ++ " \x7d)"
  | .init force => "Init(InitArgs \x7b force: " ++ truthText force ++ " \x7d)"
  | .explain rule => "Explain(ExplainArgs \x7b rule: " ++ Text.quote rule ++ " \x7d)"

/-- A request with what was asked of the log. -/
structure Invocation where
  request : Request
  level : Log.Level := .warn
  records : Bool := false
deriving DecidableEq, Repr, Inhabited

/-! ## Arguments -/

/-- The flags about the log, which all commands take. -/
def logFlags : List Flag :=
  [{ long := "log-level", value := some "LOG_LEVEL", choices := Log.Level.all.map Log.Level.name },
    { long := "log-json" }]

def helpFlag : Flag := { long := "help", short := some 'h' }

def programGrammar : Grammar where
  name := programName
  flags := logFlags ++ [helpFlag, { long := "version", short := some 'V' }]
  commands := ["check", "init", "explain", "help"]

def checkGrammar : Grammar where
  name := programName ++ " check"
  flags := [{ long := "format", short := some 'f', value := some "FORMAT" }, { long := "fail-on-warnings" },
    { long := "severity", value := some "LEVEL" }, { long := "no-color" }] ++ logFlags ++ [helpFlag]
  argument := some "PATH"

def initGrammar : Grammar where
  name := programName ++ " init"
  flags := [{ long := "force", short := some 'f' }] ++ logFlags ++ [helpFlag]

def explainGrammar : Grammar where
  name := programName ++ " explain"
  flags := logFlags ++ [helpFlag]
  argument := some "RULE"

def commandGrammars : List Grammar := [checkGrammar, initGrammar, explainGrammar]

/-- What the arguments ask for: a request, a text to show, or a complaint. -/
inductive Intent where
  | run (invocation : Invocation)
  | show (text : String)
  | complain (complaint : Complaint)
  | explainUsage
deriving Inhabited

/-- The invocation of a request under flags, those of the command before those of the program. -/
def invocationOf (request : Request) (flags : List (String × String)) : Invocation :=
  { request
    level := ((flags.lookup "log-level").bind Log.Level.ofName?).getD .warn
    records := (flags.lookup "log-json").isSome }

/-- Reads the arguments of a command with an argument or without one. -/
def readCommand (grammar : Grammar) (help : String) (outer : List (String × String)) (arguments : List String)
    (request : List (String × String) → String → Except Complaint Request) : Intent :=
  match grammar.read [] arguments with
  | .error complaint => .complain complaint
  | .ok (.asked ..) => .show help
  | .ok (.command ..) => .show help
  | .ok (.done flags argument) =>
    match request flags (argument.getD "") with
    | .error complaint => .complain complaint
    | .ok request => .run (invocationOf request (flags ++ outer))

def checkRequest (flags : List (String × String)) (path : String) : Except Complaint Request :=
  if path.isEmpty then throw { refusal := .missingValue "<PATH>" [] }
  else return .check {
    path
    format := (flags.lookup "format").getD "pretty"
    failOnWarnings := (flags.lookup "fail-on-warnings").isSome
    severity := flags.lookup "severity"
    noColour := (flags.lookup "no-color").isSome }

/-- What the command for help shows about commands, given by their names one below the other. -/
def readHelp : List String → Intent
  | [] => .show longHelp
  | name :: rest =>
    let texts := [("check", checkGrammar.usage, checkHelp), ("init", initGrammar.usage, initHelp),
      ("explain", explainGrammar.usage, explainHelp), ("help", programName ++ " help [COMMAND]", helpHelp)]
    match texts.lookup name, rest with
    | some (_, text), [] => .show text
    | some (usage, _), next :: _ => .complain { refusal := .unknownCommand next, usage := some usage }
    | none, _ => .complain { refusal := .unknownCommand name, usage := some programGrammar.usage }

def readArguments (arguments : List String) : Intent :=
  if arguments.isEmpty then .explainUsage
  else match programGrammar.read commandGrammars arguments with
    | .error complaint => .complain complaint
    | .ok (.asked flag brief) =>
      .show (if flag = "version" then versionText else if brief then shortHelp else longHelp)
    | .ok (.done ..) => .explainUsage
    | .ok (.command flags name rest) =>
      if name = "check" then readCommand checkGrammar checkHelp flags rest checkRequest
      else if name = "init" then
        readCommand initGrammar initHelp flags rest fun given _ => return .init (given.lookup "force").isSome
      else if name = "explain" then
        readCommand explainGrammar explainHelp flags rest fun _ rule => return .explain rule
      else readHelp rest

/-! ## Running -/

/-- What matters of the environment: its variables, and whether a person reads the output on a terminal. -/
structure Environment where
  noColour : Option String := none
  forceColour : Option String := none
  allowColour : Option String := none
  terminal : Bool := false
  logDirectives : Option String := none
deriving DecidableEq, Repr, Inhabited

/-- Carries out a request. None if the analysis breaks off. -/
def perform? (world : Files.World) : Request → Option Outcome
  | .check options => Check.run? world options
  | .init force => some (Init.run world force)
  | .explain rule => some (Explain.run world rule)

/-- Whether the output is coloured by the environment alone: if it is forced, or wanted on a terminal. -/
def Environment.colours (environment : Environment) : Bool :=
  (environment.forceColour.isSome && environment.forceColour != some "0") ||
    (environment.noColour.isNone && environment.allowColour != some "0" && environment.terminal)

/-- Whether the output of a request is coloured: if the environment colours it and nothing forbids it. -/
def coloured (environment : Environment) (request : Request) : Bool :=
  match request with
  | .check options => environment.colours && !options.noColour && environment.noColour.isNone
  | _ => environment.colours

/-- How the log is written: on lines, with or without colour, or as records. A clock gives the time. -/
structure LogForm where
  records : Bool
  colour : Bool
  time : Option String

def LogForm.render (form : LogForm) (event : Log.Event) : String :=
  if form.records then
    (Json.object ((form.time.map fun t => ("timestamp", Json.text t)).toList ++ event.members)).compact ++ "\n"
  else (form.time.map fun t => Log.painted form.colour "2" t ++ " ").getD "" ++ event.line form.colour ++ "\n"

structure Finish where
  status : Nat
  output : String := ""
  errors : String := ""
  world : Files.World
deriving Inhabited

def startEvent (request : Request) : Log.Event :=
  { level := .debug, source := "namelint", message := "starting namelint", data := [("command", .shown request.shown)] }

/-- Runs an invocation. None if the analysis breaks off. -/
def Invocation.run? (invocation : Invocation) (environment : Environment) (time : Option String)
    (world : Files.World) : Option Finish :=
  let (filter, ignored) := Log.Filter.ofText invocation.level (environment.logDirectives.getD "")
  let form : LogForm :=
    { records := invocation.records, colour := (environment.noColour.getD "").isEmpty, time }
  let colour := coloured environment invocation.request
  let show' : Notice → String
    | .event event => if filter.keeps event then form.render event else ""
    | .page page => Report.Page.render colour page
  (perform? world invocation.request).map fun outcome =>
    { status := outcome.status
      output := Report.Page.render colour outcome.output
      errors := String.join (ignored.map fun part => "ignoring `" ++ part ++ "`: invalid filter directive\n") ++
        String.join ((.event (startEvent invocation.request) :: outcome.notices).map show')
      world := outcome.world }

/-- Runs the program. None if the analysis breaks off. -/
def run? (environment : Environment) (time : Option String) (world : Files.World) (arguments : List String) :
    Option Finish :=
  match readArguments arguments with
  | .run invocation => invocation.run? environment time world
  | .show text => some { status := 0, output := text, world }
  | .complain complaint => some { status := 2, errors := complaint.text, world }
  | .explainUsage => some { status := 2, errors := shortHelp, world }

end NameCheck.Command
