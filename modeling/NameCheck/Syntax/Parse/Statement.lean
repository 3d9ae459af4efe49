import NameCheck.Syntax.Parse.Declaration

/-!
Statements.
-/
namespace NameCheck.Syntax.Parser

def statementNode (lo : Nat) (parts : List Node) : Parser Node := do
  return .group .statement (← spanFrom lo) parts

def parenCondition (read : Reader) : Parser Node := do
  expect .parenOpen
  let node ← inContext ({ · with allowIn := true }) (read .expression)
  expect .parenClose
  return node

def loopBody (read : Reader) : Parser Node :=
  inContext ({ · with breakable := true, continuable := true }) (read (.statement false))

/-! ## Jumps -/

/-- Reads a `break` or a `continue`. -/
def jump (isBreak : Bool) : Parser Node := do
  let lo ← here
  bump
  let label ← if ← eatSemicolon then pure none
    else do
      let id ← variableName
      expectSemicolon
      pure (some id.name)
  let span ← spanFrom lo
  let s ← get
  let unknown := match label with
    | some name => !s.labels.contains name
    | none => false
  if isBreak then
    if unknown then report span .breakLabel
    else if !s.context.breakable then report span .breakOutside
    else pure ()
  else if !s.context.continuable then report span .continueOutside
  else if unknown then report span .continueLabel
  statementNode lo []

def returnStatement (read : Reader) : Parser Node := do
  let lo ← here
  bump
  let parts ← if ← atStatementEnd then pure []
    else do pure [← inContext ({ · with allowIn := true }) (read .expression)]
  expectSemicolon
  if !(← context).inFunction then report (← spanFrom lo) .returnOutside
  statementNode lo parts

def throwStatement (read : Reader) : Parser Node := do
  let lo ← here
  bump
  if ← afterBreak then failHere .throwLineBreak
  let node ← inContext ({ · with allowIn := true }) (read .expression)
  expectSemicolon
  statementNode lo [node]

/-! ## Branches -/

def ifStatement (read : Reader) : Parser Node := do
  let lo ← here
  bump
  let test ← parenCondition read
  let yes ← read (.statement false)
  let no ← if ← eatWord "else" then do pure [← read (.statement false)] else pure []
  statementNode lo ([test, yes] ++ no)

/-- Whether a new case of a `switch` starts here, or the `switch` ends. -/
def atCaseEnd : Parser Bool := do
  return (← atEnd) || (← isWord "case") || (← isWord "default") || (← isMark .braceClose)

def switchStatement (read : Reader) : Parser Node := do
  let lo ← here
  bump
  let subject ← parenCondition read
  expect .braceOpen
  let (parts, _) ← inContext ({ · with breakable := true }) do
    repeatStep (([] : List Node), false) fun (parts, hasDefault) => do
      if ← eatWord "case" then do
        let test ← inContext ({ · with allowIn := true }) (read .expression)
        expect .colon
        let body ← collectUntil atCaseEnd (read (.statement true))
        return ((parts ++ [test] ++ body, hasDefault), true)
      else if ← eatWord "default" then do
        if hasDefault then failHere .secondDefault
        expect .colon
        let body ← collectUntil atCaseEnd (read (.statement true))
        return ((parts ++ body, true), true)
      else return ((parts, hasDefault), false)
  expect .braceClose
  statementNode lo (subject :: parts)

def catchClause? (read : Reader) : Parser (Option (List Node)) := do
  if ← eatWord "catch" then do
    let parameter ← if ← eat .parenOpen then do
        let pattern ← read .pattern
        let types := (← annotation? read).getD []
        expect .parenClose
        pure (pattern :: types)
      else pure []
    let body ← block read
    return some (parameter ++ body)
  else return none

def finallyClause? (read : Reader) : Parser (Option (List Node)) := do
  if ← eatWord "finally" then some <$> block read else return none

def tryStatement (read : Reader) : Parser Node := do
  let lo ← here
  bump
  let body ← block read
  let after ← here
  let handler ← catchClause? read
  let finalizer ← finallyClause? read
  if handler.isNone && finalizer.isNone then report (.point after) .semicolonExpected
  statementNode lo (body ++ handler.getD [] ++ finalizer.getD [])

/-- Passes over a `catch` or a `finally` without a `try`. -/
def strayHandler (read : Reader) : Parser Node := do
  let span := (← get).span
  report span .semicolonExpected
  let _ ← tryCatch (catchClause? read) fun _ => pure none
  let _ ← tryCatch (finallyClause? read) fun _ => pure none
  return .group .invalid span []

def withStatement (read : Reader) : Parser Node := do
  let span := (← get).span
  if ← typed then report span .withUnsupported
  report span .withInStrict
  bump
  let object ← parenCondition read
  let body ← inContext ({ · with inFunction := true }) (read (.statement false))
  statementNode span.lo [object, body]

/-! ## Loops -/

def whileStatement (read : Reader) : Parser Node := do
  let lo ← here
  bump
  let test ← parenCondition read
  let body ← loopBody read
  statementNode lo [test, body]

/-- Reads a `do`. Its condition is visited before its body. -/
def doStatement (read : Reader) : Parser Node := do
  let lo ← here
  bump
  let body ← loopBody read
  expectWord "while"
  let test ← parenCondition read
  let _ ← eat .semicolon
  statementNode lo [test, body]

/-- Reads the rest of the head of a loop over a collection, from `of` or `in` on: its parts, and whether the loop is
one with `of`. -/
def eachHead (read : Reader) (left : Node) : Parser (List Node × Bool) := do
  let isOf ← isWord "of"
  bump
  let right ← inContext ({ · with allowIn := true }) (read (if isOf then .assignment else .expression))
  return ([left, right], isOf)

/-- Reads the rest of the head of a counting loop, after its first semicolon. -/
def countingHead (read : Reader) (init : List Node) : Parser (List Node × Bool) := do
  let test ← if ← eat .semicolon then pure []
    else do
      let node ← inContext ({ · with allowIn := true }) (read .expression)
      expect .semicolon
      pure [node]
  let update ← if ← isMark .parenClose then pure []
    else do pure [← inContext ({ · with allowIn := true }) (read .expression)]
  return (init ++ test ++ update, false)

/-- Complains about the variables of a loop over a collection: there is one, without a value and without a type. -/
def checkLoopVariables (found : List Declared) : Parser Unit := do
  match found with
  | [one] =>
    if let .declarator _ target init := one.node then do
      if init.isSome then report target.span .initialiserInLoop
      if one.annotated then report target.span .typedLoopVariable
  | many =>
    for one in many.drop 1 do
      if let .declarator _ target _ := one.node then report target.span .manyLoopVariables

/-- Whether an expression is the word `using`, awaited or not. -/
def isUsing : Node → Bool
  | .ident id | .group .await _ [.ident id] => id.name == "using"
  | _ => false

/-- Reads the head of a `for` that starts with an expression, up to its closing parenthesis. -/
def expressionHead (read : Reader) : Parser (List Node × Bool) := do
  let lo ← here
  let init ← inContext ({ · with allowIn := false, loopHead := true }) (read .expression)
  let (next, _) ← peek
  if (← typed) && isUsing init && !(← isWord "of") && (next == .word "of" || next == .word "in") then do
    let id ← bindingName
    let span ← spanFrom lo
    if ← isWord "in" then report span .usingInLoop
    eachHead read (.group .statement span [.ident id])
  else if ← atLoopWord then do
    let isIn ← isWord "in"
    let pattern ← toPattern .assignment init
    if (← typed) && isIn then
      match pattern with
      | .group .arrayPattern span _ | .group .objectPattern span _ => report span .destructuredLoop
      | _ => pure ()
    eachHead read pattern
  else do
    expect .semicolon
    countingHead read [init]

/-- Reads the head of a `for`, up to its closing parenthesis: its parts, and whether the loop is one with `of`. -/
def forHead (read : Reader) : Parser (List Node × Bool) := do
  let s ← get
  let kind ← match s.token with
    | .word "let" => do pure (if followsLet (← peek).1 then some VariableKind.let else none)
    | .word w => pure (variableKind? w)
    | _ => pure none
  match kind with
  | some kind => do
    let found ← inContext ({ · with allowIn := false }) (loopVariables read kind)
    let decl := Node.declaration (← spanFrom s.span.lo) kind (found.map (·.node))
    if ← atLoopWord then do
      checkLoopVariables found
      eachHead read decl
    else do
      expect .semicolon
      countingHead read [decl]
  | none => if ← eat .semicolon then countingHead read [] else expressionHead read

def forStatement (read : Reader) : Parser Node := do
  let lo ← here
  bump
  let awaitSpan := (← get).span
  let awaited ← eatWord "await"
  expect .parenOpen
  let (head, isOf) ← inContext ({ · with awaitedLoop := awaited }) (forHead read)
  expect .parenClose
  let body ← loopBody read
  if awaited && !isOf then fail awaitSpan .awaitedLoop
  statementNode lo (head ++ [body])

/-! ## Expressions and labels -/

/-- Reads the statement after a label, whose colon was passed over. -/
def labelled (read : Reader) (label : Ident) : Parser Node := do
  let known := (← get).labels.contains label.name
  let saved := (← get).labels
  modify fun s => { s with labels := label.name :: s.labels }
  let body ← inContext ({ · with breakable := true }) do
    if ← isWord "function" then do
      let lo ← here
      let isGenerator ← peekMark .star
      let node ← functionDeclaration read lo false
      report node.span .labelledFunction
      if isGenerator then report node.span .labelledGenerator
      pure node
    else read (.statement false)
  if known then report label.span (.duplicateLabel label.name)
  modify fun s => { s with labels := saved }
  statementNode label.span.lo [body]

def expressionEnd (read : Reader) (lo : Nat) (node : Node) : Parser Node := do
  if ← eatSemicolon then statementNode lo [node]
  else match (← get).token with
    | .punct mark =>
      if mark.precedence?.isSome then do
        report (← get).span .semicolonExpected
        let node ← read (.binaryRest node 0)
        statementNode lo [node]
      else failHere .statementEnd
    | _ => failHere .statementEnd

/-- Reads a statement that starts like an expression: an expression, a label and its statement or, where types are
read, a declaration. -/
def expressionStatement (read : Reader) : Parser Node := do
  let lo ← here
  let node ← inContext ({ · with allowIn := true }) (read .expression)
  match node with
  | .ident id =>
    if ← eat .colon then labelled read id
    else do
      let declared ← if ← typed then declarationAfter? read lo id.name else pure none
      match declared with
      | some node => return node
      | none =>
        if (← typed) && id.name == "abstract" && (← isWord "interface") then do
          bump
          report id.span .interfaceName
          interface read lo
        else expressionEnd read lo node
  | _ => expressionEnd read lo node

/-! ## Resources -/

/-- Whether a declaration with `using` starts at the word `using`, after the token before it if `awaited`. -/
def atUsing : Parser Bool := do
  if ← isWord "using" then
    let (next, broken) ← peek
    return !broken && next.isName
  else return false

/-- Reads a declaration with `using`, whose span starts at `lo`. -/
def usingDeclaration (read : Reader) (lo : Nat) : Parser Node := do
  let word := (← get).span
  bump
  let found ← inContext ({ · with allowIn := true }) (declarators read false .var word)
  let span ← spanFrom lo
  if !(← typed) then report span .usingDisabled
  for one in found do
    if let .declarator _ target init := one.node then
      match target with
      | .ident _ => pure ()
      | _ => report span .usingDestructured
      if init.isNone then report span .usingUninitialised
  expectSemicolon
  statementNode lo (found.map (·.node))

/-! ## Statements by their first word -/

/-- Reads a statement; `declarations` says whether it may declare a function or a class. -/
def statement (read : Reader) (declarations : Bool) : Parser Node := do
  checkScanned
  let s ← get
  let lo := s.span.lo
  let (next, broken) ← peek
  match s.token with
  | .word "import" => do
    if next == .punct .parenOpen || next == .punct .dot then do
      let node ← read .expression
      let _ ← eatSemicolon
      statementNode lo [node]
    else failHere .importHere
  | .word "export" => failHere .importHere
  | .word "break" => jump true
  | .word "continue" => jump false
  | .word "debugger" => do
    bump
    expectSemicolon
    statementNode lo []
  | .word "do" => doStatement read
  | .word "for" => forStatement read
  | .word "function" => do
    if !declarations then report s.span .declarationHere
    functionDeclaration read lo false
  | .word "class" => do
    if !declarations then report s.span .declarationHere
    let (_, node) ← classFromWord read lo false true
    return node
  | .word "if" => ifStatement read
  | .word "return" => returnStatement read
  | .word "switch" => switchStatement read
  | .word "throw" => throwStatement read
  | .word "catch" | .word "finally" => strayHandler read
  | .word "try" => tryStatement read
  | .word "with" => withStatement read
  | .word "while" => whileStatement read
  | .word "var" => declareVariables read lo .var
  | .word "const" =>
    if s.features.types && next == .word "enum" then do
      bump
      bump
      enumeration read lo
    else if declarations then declareVariables read lo .const
    else expressionStatement read
  | .word "let" =>
    if declarations && followsLet next then declareVariables read lo .let else expressionStatement read
  | .punct .braceOpen => do
    let parts ← block read
    statementNode lo parts
  | .punct .semicolon => do
    bump
    statementNode lo []
  | .word "async" =>
    if next == .word "function" && !broken then do
      bump
      functionDeclaration read lo true
    else expressionStatement read
  | .word "await" =>
    if declarations && next == .word "using" then do
      let starts ← lookAhead do
        bump
        atUsing
      if starts then do
        bump
        usingDeclaration read lo
      else expressionStatement read
    else expressionStatement read
  | .word w => do
    let named := s.features.types && next.isWord && !broken
    if ← pure declarations <&&> atUsing then usingDeclaration read lo
    else if w == "interface" && named then do
      bump
      interface read lo
    else if w == "type" && named then do
      bump
      typeAlias read lo
    else if w == "enum" && named then do
      bump
      enumeration read lo
    else expressionStatement read
  | _ => expressionStatement read

end NameCheck.Syntax.Parser
