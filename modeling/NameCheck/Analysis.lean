import NameCheck.Registry
import NameCheck.Rule.AsyncName
import NameCheck.Rule.ConstantName
import NameCheck.Rule.HookCallback
import NameCheck.Rule.IconName

/-!
The analysis of a script: its errors and what the rules find, less what directives switch off.
-/
namespace NameCheck

/-- The built-in rules, in the order in which they report. -/
def builtinRules : List ModuleRule := [HookCallback.rule, AsyncName.rule, ConstantName.rule, IconName.rule]

def Registry.builtin : Registry := (builtinRules.map ModuleRule.toRule).foldl Registry.register {}

def Registry.ofSettings (settings : Settings) : Registry := Registry.builtin.configure settings

namespace Analysis

/-- The id under which errors of the text are reported. -/
def parseId : String := "PARSE"

/-- An error of the text as a diagnostic, which ends where it starts. -/
def ofError (script : Script) (e : ParseError) : Diagnostic :=
  let position : Source.Position := ⟨e.line, e.column⟩
  { ruleId := parseId, severity := .error, message := e.message, file := script.filename
    range := ⟨position, position⟩ }

/-- Whether a directive of the script switches a diagnostic off, by the id or the name of its rule. -/
def isSuppressed (registry : Registry) (script : Script) (d : Diagnostic) : Bool :=
  script.directives.isDisabled d.line d.ruleId ||
    (match registry.get? d.ruleId with
      | some rule => script.directives.isDisabled d.line rule.metadata.name
      | none => false)

/-- The diagnostics of a script: its errors, then what the rules find, less what is switched off. None if a
rule finds something that starts or ends inside a character. -/
def run? (registry : Registry) (script : Script) : Option (List Diagnostic) :=
  (registry.run? script).map fun found =>
    (script.errors.map (ofError script) ++ found).filter (!isSuppressed registry script ·)

end Analysis

end NameCheck
