import NameCheck.Syntax.Scan.Number
import NameCheck.Syntax.Scan.Trivia

/-!
Quoted text: string literals, the pieces of templates and regular expressions.
-/
namespace NameCheck.Syntax

/-- The effect of an escape after its backslash: what it stands for, the characters it fills and what follows it. What
is wrong with it may be reported, or leave no text at all. -/
structure Escape where
  value : List Char
  size : Nat
  rest : List Char
  complaint : Option Fault := none
  failure : Option Fault := none
deriving Inhabited

/-- The character that a letter stands for after a backslash. -/
def escapedChar (c : Char) : Char :=
  match c with
  | 'n' => '\n'
  | 't' => '\t'
  | 'r' => '\r'
  | 'b' => Char.ofNat 8
  | 'f' => Char.ofNat 12
  | 'v' => Char.ofNat 11
  | c => c

def scanEscape : List Char → Escape
  | [] => ⟨[], 0, [], none, some .stringEscape⟩
  | '\r' :: '\n' :: rest => ⟨[], 2, rest, none, none⟩
  | 'x' :: rest =>
    let digits := (rest.take 2).takeWhile fun c => (hexValue? c).isSome
    match digits, hexNumber? digits with
    | [_, _], some n => ⟨[Char.ofNat n], 3, rest.drop 2, none, none⟩
    | _, _ => ⟨[], 1 + digits.length, rest.drop digits.length, none, some (.badEscape "2 hex characters")⟩
  | 'u' :: rest =>
    match codePoint? rest with
    | some (n, size, after) => ⟨codePointText n size rest, size + 1, after, none, none⟩
    | none =>
      let (fault, size) := codePointFault rest
      ⟨[], 1 + size, rest.drop size, none, some fault⟩
  | c :: rest =>
    if isLineBreak c then ⟨[], 1, rest, none, none⟩
    else match digitValue? 8 c with
      | none => ⟨[escapedChar c], 1, rest, none, none⟩
      | some n =>
        let more := rest.takeWhile fun d => (digitValue? 8 d).isSome
        if n == 0 && more.isEmpty then ⟨[Char.ofNat 0], 1, rest, none, none⟩
        else
          let used := more.take (if n < 4 then 2 else 1)
          let value := used.foldl (fun total d => 8 * total + (digitValue? 8 d).getD 0) n
          ⟨[Char.ofNat value], 1 + used.length, rest.drop used.length, some .legacyOctal, none⟩

/-- The rest of a string literal that opened with `quote` at `start`; its value so far comes in reverse. -/
def stringRest (quote : Char) (start : Nat) :
    (fuel : Nat) → (value : List Char) → (problems : List Problem) → Nat → List Char → Scanned
  | 0, value, problems, pos, cs => ⟨.text (String.ofList value.reverse), pos, cs, problems⟩
  | fuel + 1, value, problems, pos, '\\' :: rest =>
    let escape := scanEscape rest
    let stop := pos + 1 + escape.size
    let found := escape.complaint.toList.map fun fault => ⟨⟨pos, stop⟩, fault⟩
    match escape.failure with
    | some fault => ⟨.broken ⟨⟨pos, stop⟩, fault⟩, stop, escape.rest, problems⟩
    | none => stringRest quote start fuel (escape.value.reverse ++ value) (problems ++ found) stop escape.rest
  | fuel + 1, value, problems, pos, c :: rest =>
    if c == quote then ⟨.text (String.ofList value.reverse), pos + 1, rest, problems⟩
    else if c == '\n' || c == '\r' then
      ⟨.text (String.ofList value.reverse), pos, c :: rest, problems ++ [⟨⟨start, pos⟩, .unterminatedString⟩]⟩
    else stringRest quote start fuel (c :: value) problems (pos + 1) rest
  | _ + 1, value, problems, pos, [] =>
    ⟨.text (String.ofList value.reverse), pos, [], problems ++ [⟨⟨start, pos⟩, .unterminatedString⟩]⟩

/-- A string literal; the text starts with its quote. -/
def scanString (pos : Nat) : List Char → Scanned
  | quote :: rest => stringRest quote pos (rest.length + 1) [] [] (pos + 1) rest
  | [] => ⟨.eof, pos, [], []⟩

/-- The last escape of a piece of a template that stands for nothing; octal escapes are such. -/
def templateFault : (fuel : Nat) → Option Problem → Nat → List Char → Option Problem
  | 0, found, _, _ => found
  | fuel + 1, found, pos, '\\' :: rest =>
    let escape := scanEscape rest
    let stop := pos + 1 + escape.size
    let fault := escape.failure.or escape.complaint
    templateFault fuel ((fault.map fun fault => ⟨⟨pos, stop⟩, fault⟩).or found) stop escape.rest
  | _ + 1, found, _, '`' :: _ => found
  | _ + 1, found, _, '$' :: '{' :: _ => found
  | fuel + 1, found, pos, _ :: rest => templateFault fuel found (pos + 1) rest
  | _ + 1, found, _, [] => found

/-- How a piece of a template ends. -/
inductive TemplateEnd where
  | closed
  | hole
  | unterminated
deriving DecidableEq, Repr, Inhabited

/-- Reads a piece of a template up to its end or to the next hole. -/
def scanTemplate : Nat → List Char → TemplateEnd × Nat × List Char
  | pos, [] => (.unterminated, pos, [])
  | pos, ['\\'] => (.unterminated, pos + 1, [])
  | pos, '\\' :: _ :: rest => scanTemplate (pos + 2) rest
  | pos, '`' :: rest => (.closed, pos + 1, rest)
  | pos, '$' :: '{' :: rest => (.hole, pos + 2, rest)
  | pos, _ :: rest => scanTemplate (pos + 1) rest

/-- Reads the body of a regular expression after its first slash; none if its line ends first. -/
def regexBody : (inClass : Bool) → Nat → List Char → Option (Nat × List Char)
  | _, _, [] => none
  | _, _, ['\\'] => none
  | inClass, pos, '\\' :: c :: rest =>
    if isLineBreak c then none else regexBody inClass (pos + 2) rest
  | inClass, pos, c :: rest =>
    if isLineBreak c then none
    else if c == '/' && !inClass then some (pos + 1, rest)
    else regexBody (if c == '[' then true else if c == ']' then false else inClass) (pos + 1) rest

def flagFaults (flags : List Char) : List Fault :=
  let known (c : Char) : Bool := "dgimsuvy".toList.contains c
  let unknown := if flags.all known then [] else [.unknownFlags]
  let repeated := (flags.filter known).find? fun c => 1 < flags.count c
  unknown ++ repeated.toList.map .duplicateFlag

/-- A regular expression, read from its first slash at `pos`: its end, what follows it and complaints about
its flags; none if it does not end on its line. -/
def scanRegex (pos : Nat) (cs : List Char) : Option (Nat × List Char × List Problem) :=
  match cs with
  | [] => none
  | _ :: body =>
    (regexBody false (pos + 1) body).map fun (stop, rest) =>
      let flags := scanName stop rest
      (flags.stop, flags.rest, (flagFaults flags.text.toList).map fun fault => ⟨⟨pos, flags.stop⟩, fault⟩)

end NameCheck.Syntax
