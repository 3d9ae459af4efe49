import NameCheck.Decimal.Magnitude
import NameCheck.Syntax.Fault

/-!
Tokens of JavaScript and TypeScript. Words are kept as text: which of them are reserved depends on where
they stand, so the questions about words are predicates here and not forms of tokens.
-/
namespace NameCheck.Syntax

/-- A punctuation mark or an operator. -/
inductive Punct where
  | braceOpen | braceClose | parenOpen | parenClose | bracketOpen | bracketClose
  | semicolon | comma | colon | dot | ellipsis | question | arrow | atSign | backtick | hash | endTag
  | lt | gt | le | ge | eq | ne | eqStrict | neStrict
  | plus | minus | star | power | slash | percent | shl | shr | ushr
  | amp | pipe | caret | ampAmp | pipePipe | nullish
  | bang | tilde | plusPlus | minusMinus
  | assign | plusAssign | minusAssign | starAssign | powerAssign | slashAssign | percentAssign
  | shlAssign | shrAssign | ushrAssign | ampAssign | pipeAssign | caretAssign
  | ampAmpAssign | pipePipeAssign | nullishAssign
deriving DecidableEq, Repr, Inhabited

namespace Punct

/-- How a mark is written. -/
def text : Punct → String
  | braceOpen => "\x7b" | braceClose => "\x7d" | parenOpen => "(" | parenClose => ")"
  | bracketOpen => "[" | bracketClose => "]"
  | semicolon => ";" | comma => "," | colon => ":" | dot => "." | ellipsis => "..." | question => "?"
  | arrow => "=>" | atSign => "@" | backtick => "`" | hash => "#" | endTag => "</"
  | lt => "<" | gt => ">" | le => "<=" | ge => ">=" | eq => "==" | ne => "!=" | eqStrict => "==="
  | neStrict => "!=="
  | plus => "+" | minus => "-" | star => "*" | power => "**" | slash => "/" | percent => "%"
  | shl => "<<" | shr => ">>" | ushr => ">>>"
  | amp => "&" | pipe => "|" | caret => "^" | ampAmp => "&&" | pipePipe => "||" | nullish => "??"
  | bang => "!" | tilde => "~" | plusPlus => "++" | minusMinus => "--"
  | assign => "=" | plusAssign => "+=" | minusAssign => "-=" | starAssign => "*=" | powerAssign => "**="
  | slashAssign => "/=" | percentAssign => "%=" | shlAssign => "<<=" | shrAssign => ">>="
  | ushrAssign => ">>>=" | ampAssign => "&=" | pipeAssign => "|=" | caretAssign => "^="
  | ampAmpAssign => "&&=" | pipePipeAssign => "||=" | nullishAssign => "??="

/-- The marks of code in the order in which they are tried, each before the marks it starts with. The mark of a
closing tag is none: it only stands between tags. -/
def longestFirst : List Punct := [
  ushrAssign,
  ellipsis, eqStrict, neStrict, ushr, powerAssign, shlAssign, shrAssign, ampAmpAssign, pipePipeAssign,
  nullishAssign,
  arrow, le, ge, eq, ne, power, shl, shr, ampAmp, pipePipe, nullish, plusPlus, minusMinus,
  plusAssign, minusAssign, starAssign, slashAssign, percentAssign, ampAssign, pipeAssign, caretAssign,
  braceOpen, braceClose, parenOpen, parenClose, bracketOpen, bracketClose, semicolon, comma, colon, dot,
  question, atSign, backtick, hash, lt, gt, plus, minus, star, slash, percent, amp, pipe, caret, bang, tilde,
  assign]

/-- How tightly a binary operator binds. -/
def precedence? : Punct → Option Nat
  | pipePipe | nullish => some 1
  | ampAmp => some 2
  | pipe => some 3
  | caret => some 4
  | amp => some 5
  | eq | ne | eqStrict | neStrict => some 6
  | lt | gt | le | ge => some 7
  | shl | shr | ushr => some 8
  | plus | minus => some 9
  | star | slash | percent => some 10
  | power => some 11
  | _ => none

def isAssignment : Punct → Bool
  | assign | plusAssign | minusAssign | starAssign | powerAssign | slashAssign | percentAssign | shlAssign
  | shrAssign | ushrAssign | ampAssign | pipeAssign | caretAssign | ampAmpAssign | pipePipeAssign
  | nullishAssign => true
  | _ => false

/-- What remains of a mark once its first character is taken alone, for marks that start with `<` or `>`. -/
def afterFirst? : Punct → Option String
  | lt | gt => some ""
  | le | ge => some "="
  | shl => some "<"
  | shr => some ">"
  | ushr => some ">>"
  | shlAssign => some "<="
  | shrAssign => some ">="
  | ushrAssign => some ">>="
  | _ => none

end Punct

/-- A token. A plain name is a word that starts with an escape; it names something wherever it stands. -/
inductive Token where
  | eof
  | word (name : String)
  | plainName (name : String)
  | privateName (name : String)
  | punct (mark : Punct)
  | text (value : String)
  | number (value : Decimal.Magnitude)
  | bigint (value : Nat)
  | markupText
  | broken (problem : Problem)
deriving DecidableEq, Repr, Inhabited

/-- How a token is named in a complaint, given how it is written. -/
def Token.describe (spelling : String) : Token → String
  | .eof => "<eof>"
  | .word name | .plainName name => name
  | .privateName _ => "#"
  | .punct mark => mark.text
  | .text value => "string literal (" ++ value ++ ", " ++ spelling ++ ")"
  | .number value => "numeric literal (" ++ value.text ++ ", " ++ spelling ++ ")"
  | .bigint value => "bigint literal (" ++ toString value ++ ", " ++ spelling ++ ")"
  | .markupText => "jsx text (" ++ spelling ++ ")"
  | .broken _ => "<lexing error>"

/-- Words with a fixed meaning in every place. -/
def keywords : List String := [
  "break", "case", "catch", "class", "const", "continue", "debugger", "default", "delete", "do", "else",
  "enum", "export", "extends", "false", "finally", "for", "function", "if", "import", "in", "instanceof",
  "new", "null", "return", "super", "switch", "this", "throw", "true", "try", "typeof", "var", "void",
  "while", "with"]

/-- Words that only strict code reserves. -/
def strictWords : List String := [
  "implements", "interface", "let", "package", "private", "protected", "public", "static", "yield"]

/-- Whether a word is reserved in the code of a module. -/
def isReserved (word : String) : Bool :=
  keywords.contains word || strictWords.contains word || word == "await"

namespace Token

def wordText? : Token → Option String
  | .word name | .plainName name => some name
  | _ => none

def isWord (token : Token) : Bool := token.wordText?.isSome

/-- Whether the token is a word that may name a variable. -/
def isName : Token → Bool
  | .word name => !isReserved name
  | .plainName _ => true
  | _ => false

end Token

end NameCheck.Syntax
