import NameCheck.Text.Similarity

/-!
Arguments of a command line: flags, values and what is refused. A grammar says what a command takes, and
`Grammar.read` reads arguments by it.
-/
namespace NameCheck.Command

/-! ## What a command takes -/

/-- A flag. It takes a value if it has a name for one. -/
structure Flag where
  long : String
  short : Option Char := none
  value : Option String := none
  choices : List String := []
deriving DecidableEq, Repr, Inhabited

def Flag.shown (flag : Flag) : String :=
  "--" ++ flag.long ++ (flag.value.map fun name => " <" ++ name ++ ">").getD ""

/-- What a command takes: flags, and an argument without a flag or the name of another command. -/
structure Grammar where
  name : String
  flags : List Flag
  argument : Option String := none
  commands : List String := []
deriving DecidableEq, Repr, Inhabited

namespace Grammar

def long? (grammar : Grammar) (name : String) : Option Flag := grammar.flags.find? (·.long == name)

def short? (grammar : Grammar) (name : Char) : Option Flag := grammar.flags.find? (·.short == some name)

/-- How the argument or the further command is shown. -/
def operand (grammar : Grammar) : String :=
  match grammar.argument with
  | some name => " <" ++ name ++ ">"
  | none => if grammar.commands.isEmpty then "" else " <COMMAND>"

def usage (grammar : Grammar) : String := grammar.name ++ " [OPTIONS]" ++ grammar.operand

def usageWith (grammar : Grammar) (flags : List String) : String :=
  grammar.name ++ String.join ((flags.filterMap grammar.long?).map fun flag => " " ++ flag.shown) ++ grammar.operand

end Grammar

/-! ## What is refused -/

inductive Refusal where
  | unexpected (argument : String)
  | missingArgument (name : String)
  | missingValue (shown : String) (choices : List String)
  | invalidValue (value shown : String) (choices : List String)
  | needlessValue (value shown : String)
  | repeated (shown : String)
  | unknownCommand (name : String)
  | missingCommand (name : String) (commands : List String)
deriving DecidableEq, Repr, Inhabited

/-- A list of what is possible, on a line of its own. -/
def choiceLine (title : String) (choices : List String) : String :=
  if choices.isEmpty then "" else "\n  [" ++ title ++ ": " ++ String.intercalate ", " choices ++ "]"

def Refusal.message : Refusal → String
  | .unexpected argument => "unexpected argument '" ++ argument ++ "' found"
  | .missingArgument name => "the following required arguments were not provided:\n  <" ++ name ++ ">"
  | .missingValue shown choices =>
    "a value is required for '" ++ shown ++ "' but none was supplied" ++ choiceLine "possible values" choices
  | .invalidValue value shown choices =>
    "invalid value '" ++ value ++ "' for '" ++ shown ++ "'" ++ choiceLine "possible values" choices
  | .needlessValue value shown =>
    "unexpected value '" ++ value ++ "' for '" ++ shown ++ "' found; no more were expected"
  | .repeated shown => "the argument '" ++ shown ++ "' cannot be used multiple times"
  | .unknownCommand name => "unrecognized subcommand '" ++ name ++ "'"
  | .missingCommand name commands =>
    "'" ++ name ++ "' requires a subcommand but one was not provided" ++ choiceLine "subcommands" commands

/-- A complaint about arguments: why they are refused, tips, and the usage of the command. -/
structure Complaint where
  refusal : Refusal
  tips : List String := []
  usage : Option String := none
deriving DecidableEq, Repr, Inhabited

def Complaint.text (c : Complaint) : String :=
  "error: " ++ c.refusal.message ++ (if c.tips.isEmpty then "" else "\n") ++
    String.join (c.tips.map fun tip => "\n  tip: " ++ tip) ++
    (c.usage.map fun usage => "\n\nUsage: " ++ usage).getD "" ++ "\n\nFor more information, try '--help'.\n"

def similarTip (noun : String) : List String → List String
  | [] => []
  | [word] => ["a similar " ++ noun ++ " exists: '" ++ word ++ "'"]
  | words =>
    ["some similar " ++ noun ++ "s exist: " ++ String.intercalate ", " (words.map fun w => "'" ++ w ++ "'")]

/-! ## Reading arguments -/

/-- How reading the arguments of a command ends: with what was given, with a call for help or for the version
(a brief one if by its short name), or at the name of another command, with the arguments after it. -/
inductive Reading where
  | done (flags : List (String × String)) (argument : Option String)
  | asked (flag : String) (brief : Bool)
  | command (flags : List (String × String)) (name : String) (rest : List String)
deriving Inhabited

/-- What has been read so far. A flag may still wait for its value. -/
structure Progress where
  flags : List (String × String) := []
  argument : Option String := none
  waiting : Option Flag := none
  literal : Bool := false
deriving Inhabited

/-- Flags that end the reading. -/
def callFlags : List String := ["help", "version"]

namespace Grammar

variable (grammar : Grammar)

/-- The usage of a command with the flags given so far; in general if nothing was given. -/
def usageOf (p : Progress) (more : List String) : String :=
  let flags := p.flags.map (·.1) ++ more
  if flags.isEmpty && p.argument.isNone then grammar.usage else grammar.usageWith flags

/-- Refuses an argument that is no flag of the command, with a tip how to pass it on as an argument. -/
def refuse (p : Progress) (argument : String) : Complaint :=
  { refusal := .unexpected argument
    tips := if !p.literal && grammar.argument.isSome && argument.startsWith "-" then
        ["to pass '" ++ argument ++ "' as a value, use '-- " ++ argument ++ "'"]
      else []
    usage := some grammar.usage }

/-- Refuses a long flag that the command does not have. A similar flag, or one of a command that is named
further on, makes a tip. -/
def refuseLong (others : List Grammar) (p : Progress) (name : String) (rest : List String) : Complaint :=
  match Text.mostSimilar? name (grammar.flags.map (·.long)) with
  | some known =>
    { refusal := .unexpected ("--" ++ name), tips := similarTip "argument" ["--" ++ known]
      usage := some (grammar.usageOf p [known]) }
  | none =>
    let elsewhere := rest.findSome? fun word =>
      (others.find? (·.name == grammar.name ++ " " ++ word)).bind fun other =>
        (Text.mostSimilar? name (other.flags.map (·.long))).map fun known => "'" ++ word ++ " --" ++ known ++ "' exists"
    match elsewhere with
    | some tip => { refusal := .unexpected ("--" ++ name), tips := [tip], usage := some (grammar.usageOf p []) }
    | none => { grammar.refuse p ("--" ++ name) with usage := some (grammar.usageOf p []) }

def record (p : Progress) (flag : Flag) (value : String) : Except Complaint Progress :=
  if (p.flags.lookup flag.long).isSome then
    throw { refusal := .repeated flag.shown, usage := some grammar.usage }
  else if !flag.choices.isEmpty && !flag.choices.contains value then
    throw {
      refusal := if value.isEmpty then .missingValue flag.shown flag.choices
        else .invalidValue value flag.shown flag.choices
      tips := similarTip "value" (Text.mostSimilar? value flag.choices).toList }
  else return { p with flags := p.flags ++ [(flag.long, value)], waiting := none }

/-- Refuses a flag that still waits for its value. -/
def settle (p : Progress) : Except Complaint Unit :=
  match p.waiting with
  | some flag => throw { refusal := .missingValue flag.shown flag.choices }
  | none => return ()

/-- Reads the characters of short flags in one argument; the rest of it may be a value. -/
def readShort (p : Progress) : List Char → Except Complaint (Progress ⊕ String)
  | [] => return .inl p
  | c :: rest =>
    match grammar.short? c with
    | none => throw (grammar.refuse p ("-" ++ c.toString))
    | some flag => do
      settle p
      if callFlags.contains flag.long then return .inr flag.long
      else if flag.value.isNone then readShort (← grammar.record p flag "") rest
      else match rest with
        | [] => return .inl { p with waiting := some flag }
        | '=' :: value => return .inl (← grammar.record p flag (String.ofList value))
        | value => return .inl (← grammar.record p flag (String.ofList value))

def readLong (others : List Grammar) (p : Progress) (text : List Char) (rest : List String) :
    Except Complaint (Progress ⊕ String) := do
  let name := String.ofList (text.takeWhile (· ≠ '='))
  let value := match text.dropWhile (· ≠ '=') with
    | _ :: value => some (String.ofList value)
    | [] => none
  match grammar.long? name with
  | none => throw (grammar.refuseLong others p name rest)
  | some flag => do
    settle p
    match flag.value, value with
    | none, none => if callFlags.contains name then return .inr name else return .inl (← grammar.record p flag "")
    | none, some value =>
      throw {
        refusal := .needlessValue value flag.shown
        usage := some (grammar.usageWith (p.flags.map (·.1) ++ [name])) }
    | some _, none => return .inl { p with waiting := some flag }
    | some _, some value => return .inl (← grammar.record p flag value)

/-- Reads an argument without a flag. -/
def readArgument (p : Progress) (text : String) : Except Complaint Progress :=
  match grammar.argument, p.argument with
  | some _, none => return { p with argument := some text }
  | _, _ =>
    let similar := Text.similarTo text grammar.commands
    if p.literal && grammar.commands.contains text then
      throw {
        refusal := .unexpected text
        tips := ["subcommand '" ++ text ++ "' exists; to use it, remove the '--' before it"]
        usage := some grammar.usage }
    else if similar.isEmpty && grammar.commands.isEmpty then throw (grammar.refuse p text)
    else throw {
      refusal := .unknownCommand text, tips := similarTip "subcommand" similar, usage := some grammar.usage }

/-- Ends the reading: nothing may wait for a value, and an argument that is needed has to be there. -/
def finish (p : Progress) : Except Complaint Reading := do
  settle p
  match grammar.argument, p.argument with
  | some name, none =>
    throw { refusal := .missingArgument name, usage := some (grammar.usageWith (p.flags.map (·.1))) }
  | _, _ =>
    if grammar.commands.isEmpty then return .done p.flags p.argument
    else throw { refusal := .missingCommand grammar.name grammar.commands, usage := some grammar.usage }

def readFrom (others : List Grammar) : Progress → List String → Except Complaint Reading
  | p, [] => grammar.finish p
  | p, text :: rest => do
    if p.literal then readFrom others (← grammar.readArgument p text) rest
    else match text.toList with
      | ['-', '-'] => do
        settle p
        readFrom others { p with literal := true } rest
      | '-' :: '-' :: long =>
        match ← grammar.readLong others p long rest with
        | .inl p => readFrom others p rest
        | .inr call => return .asked call false
      | '-' :: c :: short =>
        match ← grammar.readShort p (c :: short) with
        | .inl p => readFrom others p rest
        | .inr call => return .asked call true
      | _ =>
        match p.waiting with
        | some flag => readFrom others (← grammar.record p flag text) rest
        | none =>
          if grammar.commands.contains text then return .command p.flags text rest
          else readFrom others (← grammar.readArgument p text) rest

/-- Reads the arguments of a command; `others` are the grammars of further commands. -/
def read (others : List Grammar) (arguments : List String) : Except Complaint Reading :=
  grammar.readFrom others {} arguments

end Grammar

end NameCheck.Command
