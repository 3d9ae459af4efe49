import NameCheck.Rule.Basic
import NameCheck.Text.Word
import NameCheck.Walk

/-!
What is imported from a vector graphic is named as an icon.
-/
namespace NameCheck.IconName

open Syntax (Ident Module)

/-- Whether the text starts with `Icon` and the word ends there: no letter, digit or underscore follows. -/
def iconHere : List Char → Bool
  | 'I' :: 'c' :: 'o' :: 'n' :: rest => !((rest.head?.map Text.isWord).getD false)
  | _ => false

/-- Whether the text starts with any number of letters `w` and then the word `Icon`. -/
def iconAfterWs : List Char → Bool
  | 'w' :: rest => iconAfterWs rest
  | cs => iconHere cs

/-- Whether the word `Icon` ends somewhere in a name. -/
def isIconName : List Char → Bool
  | [] => false
  | c :: rest => iconAfterWs (c :: rest) || isIconName rest

def contains (part : List Char) : List Char → Bool
  | [] => part.isEmpty
  | c :: rest => part.isPrefixOf (c :: rest) || contains part rest

/-- What is wrong with an import: it is of a graphic and its first name is not that of an icon. -/
def checkImport (span : Span) (source : String) (locals : List Ident) : Option Violation :=
  if contains ".svg".toList source.toList then
    match locals with
    | [] => none
    | first :: _ =>
      if isIconName first.name.toList then none else some { span, message := "icons must end with word 'Icon'" }
  else none

def checkEvent : Event → Option Violation
  | .importDecl span source locals => checkImport span source locals
  | _ => none

/-- Every import of a graphic under a name that is not that of an icon. -/
def violations (module : Module) : List Violation := collectEvents false checkEvent none module

def rule : ModuleRule where
  metadata :=
    { id := "N003"
      name := "svg-file-name"
      description := "Require imported SVG icons to be named with an 'Icon' suffix"
      category := .naming
      severity := .warning
      examples := some ("// Bad\nimport Logo from './logo.svg';\n\n" ++
        "// Good\nimport LogoIcon from './logo.svg';") }
  violations := violations

end NameCheck.IconName
