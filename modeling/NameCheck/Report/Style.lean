import NameCheck.Diagnostic

/-!
Styled text for terminals. A page is a list of pieces; shown in colour, each styled piece stands between the
codes that switch its style on and the code that switches all styles off.
-/
namespace NameCheck.Report

inductive Colour where
  | red | green | yellow | blue | cyan
deriving DecidableEq, Repr, Inhabited

/-- How heavy terminal text is. -/
inductive Weight where
  | normal | bold | dimmed
deriving DecidableEq, Repr, Inhabited

structure Style where
  weight : Weight := .normal
  colour : Option Colour := none
deriving DecidableEq, Repr, Inhabited

def Colour.code : Colour → String
  | .red => "31"
  | .green => "32"
  | .yellow => "33"
  | .blue => "34"
  | .cyan => "36"

/-- The code of a weight, if it has one. -/
def Weight.code? : Weight → Option String
  | .normal => none
  | .bold => some "1"
  | .dimmed => some "2"

/-- The codes of a style, its weight first. -/
def Style.codes (style : Style) : String :=
  String.intercalate ";" (style.weight.code?.toList ++ (style.colour.map Colour.code).toList)

/-- The character that starts a code. -/
def escapeChar : Char := '\x1b'

def Style.opening (style : Style) : List Char := escapeChar :: '[' :: (style.codes.toList ++ ['m'])

/-- The sequence that switches all styles off. -/
def reset : List Char := [escapeChar, '[', '0', 'm']

/-- A text in which a style is switched on again after each place where all styles are switched off. -/
def Style.resume (style : Style) : List Char → List Char
  | '\x1b' :: '[' :: '0' :: 'm' :: rest => reset ++ style.opening ++ style.resume rest
  | c :: rest => c :: style.resume rest
  | [] => []

/-- A piece of a page: text in a style or without one. -/
structure Piece where
  text : String
  style : Option Style := none
deriving DecidableEq, Repr, Inhabited

namespace Piece

def plain (text : String) : Piece := ⟨text, none⟩

def coloured (colour : Colour) (text : String) : Piece := ⟨text, some { colour := some colour }⟩

def strong (colour : Colour) (text : String) : Piece := ⟨text, some { weight := .bold, colour := some colour }⟩

def bold (text : String) : Piece := ⟨text, some { weight := .bold }⟩

def dimmed (text : String) : Piece := ⟨text, some { weight := .dimmed }⟩

def chars (colour : Bool) (piece : Piece) : List Char :=
  match colour, piece.style with
  | true, some style => style.opening ++ style.resume piece.text.toList ++ reset
  | _, _ => piece.text.toList

end Piece

/-- Pieces of styled text, one after the other. -/
abbrev Page := List Piece

def Page.render (colour : Bool) (page : Page) : String := String.ofList (page.flatMap (Piece.chars colour))

def severityColour : Severity → Colour
  | .error => .red
  | .warning => .yellow
  | .info => .blue
  | .hint => .cyan

/-- The name of a severity in its style. -/
def severityLabel (severity : Severity) : Piece := .strong (severityColour severity) severity.name

end NameCheck.Report
