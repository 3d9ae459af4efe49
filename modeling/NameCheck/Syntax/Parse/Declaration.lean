import NameCheck.Syntax.Parse.Expression

/-!
Declarations of variables, classes and, where types are read, of types, enumerations and namespaces.
-/
namespace NameCheck.Syntax.Parser

/-! ## Variables -/

/-- Whether a token after the word `let` makes it the start of a declaration. -/
def followsLet : Token → Bool
  | .word w => !keywords.contains w
  | .plainName _ => true
  | .punct .braceOpen | .punct .bracketOpen => true
  | _ => false

/-- The kind of declaration that a word starts. -/
def variableKind? : String → Option VariableKind
  | "var" => some .var
  | "let" => some .let
  | "const" => some .const
  | _ => none

/-- Whether the word `in` or `of` stands here. -/
def atLoopWord : Parser Bool := do return (← isWord "in") || (← isWord "of")

/-- A declared variable, and whether it is declared with a type. -/
structure Declared where
  node : Node
  annotated : Bool
deriving Inhabited

/-- Reads one variable of a declaration, with its type and its value. -/
def declarator (read : Reader) (inLoop : Bool) (kind : VariableKind) : Parser Declared := do
  let lo ← here
  if kind != .var then refuseLet
  let target ← read .pattern
  let isName := match target with
    | .ident _ => true
    | _ => false
  let _ ← if (← typed) && isName then eat .bang else pure false
  let annotation ← annotation? read
  let target ← match annotation with
    | some types => pure (annotatedPattern target target.span.hi types)
    | none => pure target
  let init ← if inLoop && (← atLoopWord) then pure none
    else if ← eat .assign then some <$> read .assignment
    else do
      if (← context).ambient then pure ()
      else if kind == .const then report (← spanFrom lo) .constUninitialised
      else if !isName then fail (← spanFrom lo) .patternUninitialised
      pure none
  return ⟨.declarator (← spanFrom lo) target init, annotation.isSome⟩

/-- Reads the variables of a declaration after its first word. Nothing after a comma, or after that word, is a
complaint. -/
def declarators (read : Reader) (inLoop : Bool) (kind : VariableKind) (word : Span) : Parser (List Declared) := do
  let found ← repeatStep [] fun found => do
    if (← isMark .semicolon) || (← atEnd) then do
      let previous := (← get).previous
      report (if previous == word then .point previous.hi else previous) .trailingComma
      return (found, false)
    else do
      let one ← declarator read inLoop kind
      return (one :: found, ← eat .comma)
  return found.reverse

/-- Passes over tokens until a statement may end. -/
def skipStatement : Parser Unit :=
  repeatStep () fun _ => do
    if ← eatSemicolon then return ((), false)
    else do
      bump
      match (← get).token with
      | .broken _ => return ((), false)
      | _ => return ((), true)

/-- Reads a declaration of variables whose span starts at `lo`. -/
def declareVariables (read : Reader) (lo : Nat) (kind : VariableKind) : Parser Node := do
  let word := (← get).span
  bump
  let found ← inContext ({ · with allowIn := true }) (declarators read false kind word)
  if !(← eatSemicolon) then do
    report (← get).span .semicolonExpected
    let _ ← tryCatch (some <$> read .expression) fun _ => pure none
    skipStatement
  return .declaration (← spanFrom lo) kind (found.map (·.node))

/-- Whether a loop over a collection goes on here, without a variable. -/
def lacksVariable (read : Reader) : Parser Bool := do
  if (← typed) && (← atLoopWord) then lookAhead do
    bump
    let _ ← read .assignment
    expect .parenClose
    return true
  else return false

/-- Reads the variables that the head of a loop declares. -/
def loopVariables (read : Reader) (kind : VariableKind) : Parser (List Declared) := do
  let word := (← get).span
  bump
  if ← lacksVariable read then
    report (.point word.hi) .emptyDeclarations
    return []
  else inContext (fun c => if kind == .var then c else { c with allowIn := true }) (declarators read true kind word)

/-! ## Declarations of types -/

/-- Reads the key of a member of an enumeration. Numbers and computed keys are complaints. -/
def enumKey (read : Reader) : Parser Unit := do
  let s ← get
  match s.token with
  | .text _ => bump
  | .number _ => do
    bump
    report s.span .numericMember
  | .punct .bracketOpen => do
    bump
    let _ ← read .expression
    report (← spanFrom s.span.lo) .computedMember
    expect .bracketClose
  | _ => do
    let _ ← anyName

/-- Reads one member of an enumeration. If neither a value nor a comma follows its key, what does is passed over, and
the token after that counts as the comma. -/
def enumMember (read : Reader) : Parser (List Node) := do
  enumKey read
  if ← eat .assign then return [← read .assignment]
  else do
    if !((← isMark .comma) || (← isMark .braceClose)) then
      let lo ← here
      bump
      modify fun s => { s with token := .punct .comma }
      report (.point lo) .semicolonExpected
    return []

/-- Reads the members of an enumeration, up to its closing brace. A missing comma is a complaint. -/
def enumMembers (read : Reader) : Parser (List Node) := do
  let found ← repeatStep [] fun found => do
    if ← isMark .braceClose then return (found, false)
    else do
      let member ← enumMember read
      let found := member.reverse ++ found
      if ← eat .comma then return (found, true)
      else if ← isMark .braceClose then return (found, false)
      else do
        report (← get).span (.expected "," (← get).tokenText)
        return (found, true)
  return found.reverse

/-- Reads an enumeration, after the word `enum`. -/
def enumeration (read : Reader) (lo : Nat) : Parser Node := do
  let _ ← anyName
  expect .braceOpen
  let members ← enumMembers read
  expect .braceClose
  return .group .statement (← spanFrom lo) members

/-- Passes over what stands before a brace. -/
def skipToBrace : Parser Unit := do
  let _ ← repeatStep () fun _ => do
    if (← atEnd) || (← isMark .braceOpen) then return ((), false)
    else do
      bump
      return ((), true)

/-- Reads an interface, after the word `interface`. -/
def interface (read : Reader) (lo : Nat) : Parser Node := do
  let id ← anyName
  if builtinTypes.contains id.name then report id.span .interfaceName
  let types ← typeParameters? read .typeName
  let bases ← if ← eatWord "extends" then do
      let (_, types) ← heritage read
      pure types
    else pure []
  if ← isWord "extends" then
    report (← get).span .secondExtends
    skipToBrace
  let members ← typeMembers read
  return .group .statement (← spanFrom lo) (types ++ bases ++ members)

/-- Reads a type with a name, after the word `type`. -/
def typeAlias (read : Reader) (lo : Nat) : Parser Node := do
  let _ ← anyName
  let parameters ← typeParameters? read .typeName
  expect .assign
  let types ← read .type
  expectSemicolon
  return .group .statement (← spanFrom lo) (parameters ++ types)

/-- Reads the items of a namespace in braces. -/
def namespaceBody (read : Reader) : Parser (List Node) := do
  expect .braceOpen
  untilBrace (read .item)

/-- Reads the name of a namespace, which may have several parts, and its items. -/
def namespaceRest (read : Reader) (lo : Nat) : Parser Node := do
  let _ ← repeatStep () fun _ => do
    let _ ← anyName
    return ((), ← eat .dot)
  let items ← namespaceBody read
  return .group .statement (← spanFrom lo) items

/-- Reads the items of a module of another place, if it has any, after its name. -/
def foreignBody (read : Reader) (lo : Nat) : Parser Node := do
  let items ← if ← isMark .braceOpen then namespaceBody read else do
    expectSemicolon
    pure []
  return .group .statement (← spanFrom lo) items

/-- Reads `= require('…')` or `= A.B` after the name of an import. -/
def importEquals (lo : Nat) : Parser Node := do
  expect .assign
  if (← isWord "require") && (← peekMark .parenOpen) then do
    bump
    bump
    match (← get).token with
    | .text _ => bump
    | _ => unexpected "a string literal"
    expect .parenClose
  else qualifiedName false
  expectSemicolon
  return .group .statement (← spanFrom lo) []

/-- Reads a declaration that starts at `lo` with a word that may also be a name, if the word introduces one. Either the
word was passed over, and what follows it decides, or it is `current` and certain to introduce a declaration. -/
def typeDeclaration? (read : Reader) (lo : Nat) (word : String) (current : Bool) : Parser (Option Node) := do
  let declares : Parser Bool := do
    if current then
      bump
      return true
    else isName
  match word with
  | "abstract" =>
    if current then bump
    if current || ((← isWord "class") && !(← afterBreak)) then
      let (_, node) ← classFromWord read lo true true
      return some node
    else return none
  | "enum" => if ← declares then some <$> enumeration read lo else return none
  | "interface" => if ← declares then some <$> interface read lo else return none
  | "namespace" => if ← declares then some <$> namespaceRest read lo else return none
  | "type" => if ← declares then some <$> typeAlias read lo else return none
  | "module" => do
    if current then bump
    match (← get).token with
    | .eof => failHere .endOfText
    | .text _ => do
      bump
      some <$> foreignBody read lo
    | _ => if ← pure current <||> isName then some <$> namespaceRest read lo else return none
  | _ => return none

/-- Reads what the word `declare`, which was passed over at `lo`, declares, if anything. -/
def ambientDeclaration? (read : Reader) (lo : Nat) : Parser (Option Node) := do
  if (← context).ambient then report (← spanFrom lo) .ambientNested
  inContext ({ · with ambient := true }) do
    match (← get).token with
    | .word "function" => some <$> functionDeclaration read lo false
    | .word "class" => do
      let (_, node) ← classFromWord read lo false true
      return some node
    | .word "global" => do
      bump
      some <$> foreignBody read lo
    | .word w =>
      if w == "const" && (← peekWord "enum") then do
        bump
        bump
        some <$> enumeration read lo
      else match variableKind? w with
        | some kind => some <$> declareVariables read lo kind
        | none => typeDeclaration? read lo w true
    | _ => return none

/-- Reads the declaration that a name, which was read as an expression at `lo`, introduces, if it introduces one. -/
def declarationAfter? (read : Reader) (lo : Nat) (name : String) : Parser (Option Node) := do
  match name with
  | "declare" => ambientDeclaration? read lo
  | "global" =>
    if ← isMark .braceOpen then
      let items ← namespaceBody read
      return some (.group .statement (← spanFrom lo) items)
    else return none
  | word => typeDeclaration? read lo word false

end NameCheck.Syntax.Parser
