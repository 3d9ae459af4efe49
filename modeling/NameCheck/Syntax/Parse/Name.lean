import NameCheck.Syntax.Parse.Goal

/-!
Reading names: of variables, of properties, and the keys of objects and classes.
-/
namespace NameCheck.Syntax.Parser

def anyName : Parser Ident := do
  let s ← get
  match s.token.wordText? with
  | some name => do
    bump
    return ⟨s.span, name⟩
  | none => failHere .nameExpected

/-- Reads a word as the name of a variable. -/
def variableName : Parser Ident := do
  let s ← get
  match s.token.wordText? with
  | some name => do
    bump
    if s.token.isName then
      if name == "arguments" && s.context.inField then report s.span .argumentsInField
      return ⟨s.span, name⟩
    if name == "enum" || strictWords.contains name then report s.span (.strictName name)
    let context := s.context
    if name == "await" then
      if context.ambient then return ⟨s.span, name⟩
      else if context.inStaticBlock then fail s.span .nameExpected
      else fail s.span .awaitName
    else if name == "enum" || (name == "this" && s.features.types) then return ⟨s.span, name⟩
    else if keywords.contains name then fail s.span .nameExpected
    else return ⟨s.span, name⟩
  | none => failHere .nameExpected

/-- Reads the name that a declaration binds. -/
def bindingName : Parser Ident := do
  let id ← if ← isName then anyName else variableName
  if id.name == "eval" || id.name == "arguments" then report id.span .strictBinding
  let context ← context
  if context.inGenerator && id.name == "yield" then report id.span .nameExpected
  return id

/-- Stops at the word `let`, which no lexical declaration binds. -/
def refuseLet : Parser Unit := do
  if ← isWord "let" then unexpected "let is reserved in const, let, class declaration"

/-- Reads a name that a declaration binds, if one stands here. -/
def bindingName? : Parser (Option Ident) := do
  if ← isName then return some (← bindingName) else return none

/-- Stops at the mark of a hidden name that no name follows at once. -/
def looseHash {α : Type} : Parser α := do
  let lo ← here
  bump
  if (← get).previous.hi < (← here) then fail (← spanFrom lo) .spaceAfterHash else failHere .nameExpected

/-- Reads the name after a dot, which may be hidden. -/
def memberName : Parser (Ident ⊕ Ident) := do
  let s ← get
  match s.token with
  | .privateName name => do
    bump
    return .inr ⟨s.span, name⟩
  | .punct .hash => looseHash
  | _ => return .inl (← anyName)

/-- Reads the key of a property; the expression of a computed key is its part. -/
def propertyKey (read : Reader) : Parser (Key × List Node) := do
  checkScanned
  let s ← get
  match s.token with
  | .word name | .plainName name => do
    bump
    return (.name ⟨s.span, name⟩, [])
  | .text value => do
    bump
    return (.text s.span value, [])
  | .number value => do
    bump
    return (.number s.span value, [])
  | .bigint _ => do
    bump
    return (.bigint s.span, [])
  | .punct .bracketOpen => do
    bump
    let inner ← here
    let first ← inContext ({ · with allowIn := true }) (read .assignment)
    let rest ← if (← typed) && (← isMark .comma) then
        let rest ← repeatStep [] fun rest => do
          if ← eat .comma then
            let next ← inContext ({ · with allowIn := true }) (read .assignment)
            return (next :: rest, true)
          else return (rest, false)
        report (← spanFrom inner) .computedSequence
        pure rest.reverse
      else pure []
    expect .bracketClose
    return (.computed (← spanFrom s.span.lo), first :: rest)
  | _ => unexpected "identifier, string literal, numeric literal or [ for the computed key"

/-- Reads the key of a member of a class, which may be hidden. -/
def classKey (read : Reader) : Parser (Key × List Node) := do
  let s ← get
  match s.token with
  | .privateName name => do
    bump
    if name == "constructor" then report s.span .privateConstructor
    return (.hidden ⟨s.span, name⟩, [])
  | .punct .hash => looseHash
  | _ => propertyKey read

/-- Whether a key is the word `constructor`, quoted or not. -/
def isConstructorKey : Key → Bool
  | .name id => id.name == "constructor"
  | .text _ value => value == "constructor"
  | _ => false

end NameCheck.Syntax.Parser
