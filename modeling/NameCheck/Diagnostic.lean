import NameCheck.Script

/-!
Diagnostics: what is reported about a file, how severe it is and where it stands.
-/
namespace NameCheck

/-- How severe a diagnostic is, the most severe first. -/
inductive Severity where
  | error | warning | info | hint
deriving DecidableEq, Repr, Inhabited

namespace Severity

/-- All severities, the most severe first. -/
def all : List Severity := [.error, .warning, .info, .hint]

def name : Severity → String
  | .error => "error"
  | .warning => "warning"
  | .info => "info"
  | .hint => "hint"

def ofName? (name : String) : Option Severity := all.find? (·.name == name)

/-- The rank of a severity, from zero for the most severe. -/
def rank : Severity → Nat
  | .error => 0
  | .warning => 1
  | .info => 2
  | .hint => 3

/-- Whether a severity is no less severe than another. -/
def atLeast (s other : Severity) : Bool := s.rank ≤ other.rank

end Severity

/-- What a rule finds wrong, and where in the text. -/
structure Violation where
  span : Span
  message : String
  suggestion : Option String := none
deriving DecidableEq, Repr, Inhabited

/-- A report about a place in a file. -/
structure Diagnostic where
  ruleId : String
  severity : Severity
  message : String
  file : String
  range : Source.Range
  suggestion : Option String := none
deriving DecidableEq, Repr, Inhabited

namespace Diagnostic

def line (d : Diagnostic) : Nat := d.range.start.line

end Diagnostic

end NameCheck
