import NameCheck.Json.Print
import NameCheck.Report.Style
import NameCheck.Text.Quoted

/-!
Events of a log: what happened, how much it matters and where it comes from.
-/
namespace NameCheck.Log

/-- How much an event matters, the least first. -/
inductive Level where
  | trace | debug | info | warn | error
deriving DecidableEq, Repr, Inhabited

namespace Level

/-- All levels, the least first. -/
def all : List Level := [.trace, .debug, .info, .warn, .error]

def name : Level → String
  | .trace => "trace"
  | .debug => "debug"
  | .info => "info"
  | .warn => "warn"
  | .error => "error"

def ofName? (name : String) : Option Level := all.find? (·.name == name)

/-- The rank of a level, from zero for the least. -/
def rank : Level → Nat
  | .trace => 0
  | .debug => 1
  | .info => 2
  | .warn => 3
  | .error => 4

/-- How a level is written in records. -/
def label : Level → String
  | .trace => "TRACE"
  | .debug => "DEBUG"
  | .info => "INFO"
  | .warn => "WARN"
  | .error => "ERROR"

def code : Level → String
  | .trace => "35"
  | .debug => "34"
  | .info => "32"
  | .warn => "33"
  | .error => "31"

end Level

/-- A value that an event carries. Texts stand in quotes in lines; what is shown stands as it is. -/
inductive Datum where
  | text (text : String)
  | shown (text : String)
  | count (n : Nat)
  | flag (b : Bool)
deriving DecidableEq, Repr, Inhabited

/-- Something that happened. The source names the part of the program that tells of it. -/
structure Event where
  level : Level
  source : String
  message : String
  data : List (String × Datum) := []
deriving DecidableEq, Repr, Inhabited

def Datum.line : Datum → String
  | .text t => Text.quote t
  | .shown t => t
  | .count n => toString n
  | .flag b => toString b

def Datum.json : Datum → Json
  | .text t => .text t
  | .shown t => .text t
  | .count n => .number n
  | .flag b => .bool b

/-- A text in a terminal style given by its code, if colour is wanted. -/
def painted (colour : Bool) (code text : String) : String :=
  if colour then "\x1b[" ++ code ++ "m" ++ text ++ "\x1b[0m" else text

/-- A level with blanks before it, so that all have the same width. -/
def Level.padded (level : Level) : String := (if level.label.length < 5 then " " else "") ++ level.label

/-- An event on a line, after the time. -/
def Event.line (colour : Bool) (event : Event) : String :=
  painted colour event.level.code event.level.padded ++ " " ++ event.message ++
    String.join (event.data.map fun (name, datum) =>
      " " ++ painted colour "3" name ++ painted colour "2" "=" ++ datum.line)

/-- The members of an event as a record, after the time. -/
def Event.members (event : Event) : List (String × Json) :=
  [("level", .text event.level.label),
    ("fields", .object (("message", .text event.message) :: event.data.map fun (name, datum) => (name, datum.json)))]

end NameCheck.Log
