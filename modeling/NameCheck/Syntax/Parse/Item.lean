import NameCheck.Syntax.Parse.Statement

/-!
Items of a module: imports, exports and statements.
-/
namespace NameCheck.Syntax.Parser

/-! ## Imports -/

/-- Reads a name of another module, which may be any word or quoted. -/
def foreignName : Parser (Ident ⊕ String) := do
  let s ← get
  match s.token with
  | .text value => do
    bump
    return .inr value
  | .word name | .plainName name => do
    bump
    return .inl ⟨s.span, name⟩
  | _ => unexpected "identifier or string"

def moduleName : Parser String := do
  match (← get).token with
  | .text value => do
    bump
    return value
  | _ => unexpected "a string literal"

/-- Reads the attributes of an import, if it has any, and ends it. -/
def importEnd (read : Reader) : Parser (List Node) := do
  let found ← if !(← afterBreak) && ((← isWord "with") || (← isWord "assert")) then do
      bump
      attributes read
    else pure []
  expectSemicolon
  return found

/-- Reads the local name after `as`, or takes `name` as the local name. -/
def localName (name : Ident) : Parser Ident := do if ← eatWord "as" then bindingName else return name

/-- Reads one name in the braces of an import: the name it has here. The word `type` before a name is a modifier where
types are read, and a complaint if the whole import is `typeOnly`. -/
def importSpecifier (typeOnly : Bool) : Parser Ident := do
  let lo ← here
  match ← foreignName with
  | .inr value =>
    if ← eatWord "as" then bindingName else fail (← spanFrom lo) (.stringBinding value)
  | .inl first =>
    let checkModifier : Parser Unit := if typeOnly then report first.span .typeInTypeImport else pure ()
    if (← typed) && first.name == "type" && (← isAnyWord) then do
      let second ← anyName
      if second.name != "as" then do
        checkModifier
        localName second
      else if !(← isAnyWord) then do
        checkModifier
        return second
      else do
        let third ← bindingName
        if third.name == "as" && (← isAnyWord) then do
          let fourth ← bindingName
          checkModifier
          return fourth
        else return third
    else localName first

/-- Reads the names in the braces of an import, up to the closing brace. -/
def importSpecifiers (typeOnly : Bool) : Parser (List Ident) := do
  let found ← repeatStep [] fun found => do
    if (← atEnd) || (← isMark .braceClose) then return (found, false)
    else do
      let id ← importSpecifier typeOnly
      if ← isMark .braceClose then return (id :: found, false)
      else do
        expect .comma
        return (id :: found, true)
  expect .braceClose
  return found.reverse

/-- When the values of an imported module are needed: on import, or only its source, or later. -/
inductive Phase where
  | evaluation
  | source
  | defer
deriving DecidableEq, Repr, Inhabited

/-- The phase that a word before a name asks for. -/
def Phase.ofWord? : String → Option Phase
  | "source" => some .source
  | "defer" => some .defer
  | _ => none

/-- What stands in an import before its braces or its star. -/
structure ImportHead where
  name : Option Ident := none
  equals : Bool := false
  typeOnly : Bool := false
  phase : Phase := .evaluation
deriving Inhabited

/-- Reads the phase and the name after the first name of an import, which may be a word for a phase. -/
def phasedName (first : Ident) (typeOnly : Bool) : Parser ImportHead := do
  let phase? := Phase.ofWord? first.name
  if phase?.isSome && ((← isMark .star) || (← isMark .braceOpen)) then
    return { typeOnly, phase := phase?.getD .evaluation }
  else do
    let phased ← do pure (phase?.isSome && (← isName) && (!(← isWord "from") || (← peekWord "from")))
    let name ← if phased then bindingName else pure first
    if !(← isWord "from") then expect .comma
    return { name := some name, typeOnly, phase := if phased then phase?.getD .evaluation else .evaluation }

/-- Reads the first name of an import, which stands outside braces, and the words `type`, `source` and
`defer` that may come before it. -/
def importHead : Parser ImportHead := do
  if !(← isName) then return {}
  else do
    let first ← bindingName
    let isType := first.name == "type" && (← typed)
    if isType && ((← isMark .star) || (← isMark .braceOpen)) then return { typeOnly := true }
    else do
      let renamed ← if isType && (← isName) then
          if !(← isWord "from") || (← peekWord "from") then some <$> bindingName
          else if ← peekMark .assign then some <$> anyName
          else pure none
        else pure none
      let name := renamed.getD first
      if (← typed) && (← isMark .assign) then return { name := some name, equals := true }
      else phasedName name renamed.isSome

/-- Reads an import, after the word `import`. A star is not read in the source phase, nor are braces in any but that
of evaluation. -/
def importRest (read : Reader) (lo : Nat) : Parser Node := do
  match (← get).token with
  | .text value => do
    bump
    let attributes ← importEnd read
    return .importDecl (← spanFrom lo) value [] attributes
  | _ => do
    let head ← importHead
    if head.equals then importEquals lo
    else do
      let others ← if ← pure (head.phase != .source) <&&> eat .star then do
          expectWord "as"
          pure [← bindingName]
        else if ← pure (head.phase == .evaluation) <&&> eat .braceOpen then importSpecifiers head.typeOnly
        else pure []
      expectWord "from"
      let source ← moduleName
      let attributes ← importEnd read
      return .importDecl (← spanFrom lo) source (head.name.toList ++ others) attributes

def importItem (read : Reader) : Parser Node := do
  let lo ← here
  let (next, _) ← peek
  if next == .punct .parenOpen || next == .punct .dot then do
    let node ← read .expression
    let _ ← eatSemicolon
    statementNode lo [node]
  else do
    bump
    importRest read lo

/-! ## Exports -/

/-- Reads the module that names are exported from, with its attributes, and ends the export. -/
def fromClause (read : Reader) : Parser (List Node) := do
  expectWord "from"
  let _ ← moduleName
  importEnd read

/-- Words that a module cannot declare and so not export, save from another. -/
def unexportable : List String := "package" :: keywords

/-- What is wrong with a name that is exported from this module. -/
def exportFault? : Ident ⊕ String → Option Fault
  | .inl id => if unexportable.contains id.name then some (.exportNeedsFrom id.name) else none
  | .inr _ => some .stringExport

/-- Reads the rest of a name in the braces of an export after the word `type`, if it is a modifier: the name that is
exported. The modifier is a complaint if the whole export is `typeOnly`. -/
def typeSpecifier (typeOnly : Bool) (first : Ident) : Parser Ident := do
  let checkModifier : Parser Unit := if typeOnly then report first.span .typeInTypeExport else pure ()
  let second ← anyName
  if second.name != "as" then do
    checkModifier
    if ← eatWord "as" then
      let _ ← foreignName
    return second
  else if !(← isAnyWord) then do
    checkModifier
    return second
  else do
    let third ← anyName
    if third.name == "as" && (← isAnyWord) then do
      let _ ← anyName
      checkModifier
      return second
    else return first

/-- Reads one name in the braces of an export: what is wrong with it if it is declared in this module. -/
def exportSpecifier (typeOnly : Bool) : Parser (Option Problem) := do
  let span := (← get).span
  match ← foreignName with
  | .inl first => do
    let name ← if first.name == "type" && (← typed) && (← isAnyWord) then typeSpecifier typeOnly first
      else do
        if ← eatWord "as" then
          let _ ← foreignName
        pure first
    return (exportFault? (.inl name)).map (⟨name.span, ·⟩)
  | .inr value => do
    if ← eatWord "as" then
      let _ ← foreignName
    return (exportFault? (.inr value)).map (⟨span, ·⟩)

/-- Reads the names in the braces of an export, up to the closing brace: what is wrong with them if they are
declared in this module. -/
def exportSpecifiers (typeOnly : Bool) : Parser (List Problem) := do
  let found ← repeatStep [] fun found => do
    if (← atEnd) || (← isMark .braceClose) then return (found, false)
    else do
      let problem ← exportSpecifier typeOnly
      let found := problem.toList ++ found
      if ← isMark .braceClose then return (found, false)
      else do
        expect .comma
        return (found, true)
  expect .braceClose
  return found.reverse

/-- Reads an export of names that are declared elsewhere. -/
def exportNames (read : Reader) (lo : Nat) (typeOnly : Bool) : Parser Node := do
  if (← isMark .star) && !(← peekWord "as") then do
    bump
    statementNode lo (← fromClause read)
  else if ← eat .star then do
    expectWord "as"
    let _ ← foreignName
    statementNode lo (← fromClause read)
  else do
    expect .braceOpen
    let problems ← exportSpecifiers typeOnly
    if ← isWord "from" then statementNode lo (← fromClause read)
    else do
      for problem in problems do report problem.span problem.fault
      let _ ← eatSemicolon
      statementNode lo []

/-- Reads what a module exports as its default, after the word `default`. -/
def exportDefaultRest (read : Reader) (lo : Nat) : Parser Node := do
  let s ← get
  let (next, broken) ← peek
  let classNode (isAbstract : Bool) : Parser Node := do
    let (_, node) ← classFromWord read s.span.lo isAbstract false
    return .exportDefault (← spanFrom lo) .classDecl node
  let function (isAsync : Bool) : Parser Node := do
    let (name, head, rest) ← functionFromWord read s.span.lo isAsync false false
    return .exportDefault (← spanFrom lo) (.function name head) (.fnExpr head name rest.parts)
  match s.token with
  | .word "class" => classNode false
  | .word "function" => function false
  | token =>
    if token == .word "async" && next == .word "function" && !broken then do
      bump
      function true
    else if s.features.types && token == .word "abstract" && next == .word "class" && !broken then do
      bump
      classNode true
    else if s.features.types &&
        (token == .word "interface" || (token == .word "abstract" && next == .word "interface")) then do
      if token == .word "abstract" then
        report s.span .abstractHere
        bump
      let start ← here
      bump
      let node ← interface read start
      return .exportDefault (← spanFrom lo) .interface node
    else do
      let node ← inContext ({ · with allowIn := true }) (read .assignment)
      expectSemicolon
      statementNode lo [node]

/-- Reads a declaration that is exported, if one stands here. -/
def exportedDeclaration? (read : Reader) : Parser (Option Node) := do
  let s ← get
  let lo := s.span.lo
  let (next, broken) ← peek
  match s.token with
  | .word "class" => do
    let (_, node) ← classFromWord read lo false true
    return some node
  | .word "function" => some <$> functionDeclaration read lo false
  | .word "async" =>
    if next == .word "function" && !broken then do
      bump
      some <$> functionDeclaration read lo true
    else return none
  | .word "const" =>
    if s.features.types && next == .word "enum" then do
      bump
      bump
      some <$> enumeration read lo
    else some <$> declareVariables read lo .const
  | .word "var" => some <$> declareVariables read lo .var
  | .word "let" => if followsLet next then some <$> declareVariables read lo .let else return none
  | _ => return none

/-- Reads an export that only modules with types have: of another module's import, of a value as the whole
module, or under a global name. -/
def typedExport? (read : Reader) (lo : Nat) : Parser (Option Node) := do
  if ← eatWord "import" then do
    if (← isWord "type") && (← peekName) then bump
    let _ ← anyName
    some <$> importEquals lo
  else if ← eat .assign then do
    let node ← read .expression
    expectSemicolon
    some <$> statementNode lo [node]
  else if ← eatWord "as" then do
    expectWord "namespace"
    let _ ← variableName
    expectSemicolon
    some <$> statementNode lo []
  else return none

def exportItem (read : Reader) : Parser Node := do
  let lo ← here
  bump
  if ← atEnd then failHere .endOfText
  let after ← here
  let isTyped ← typed
  let ambient ← if ← pure isTyped <&&> eatWord "declare" then ambientDeclaration? read after else pure none
  let declared ← match ambient with
    | some node => pure (some node)
    | none =>
      match isTyped, (← get).token.wordText? with
      | true, some word => do
        let start ← here
        attempt (typeDeclaration? read start word true)
      | _, _ => pure none
  match declared with
  | some node => statementNode lo [node]
  | none => do
    let special ← if isTyped then typedExport? read lo else pure none
    match special with
    | some node => return node
    | none => do
      let typeOnly ← if isTyped then eatWord "type" else pure false
      if ← pure !typeOnly <&&> eatWord "default" then exportDefaultRest read lo
      else do
        let decl ← if typeOnly then pure none else exportedDeclaration? read
        match decl with
        | some node => statementNode lo [node]
        | none => exportNames read lo typeOnly

/-- Reads one item of a module or of a namespace. -/
def item (read : Reader) : Parser Node := do
  match (← get).token with
  | .word "import" => importItem read
  | .word "export" => exportItem read
  | _ => statement read true

end NameCheck.Syntax.Parser
