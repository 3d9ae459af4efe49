import NameCheck.Syntax.Parse.Pattern

/-!
Types. Nothing of a type is kept but the expressions written inside it: computed keys and default values.
-/
namespace NameCheck.Syntax.Parser

/-! ## Lists of types -/

/-- Reads what a step reads, with commas between, until a question is answered with yes; a comma may close
the list. -/
def commaList {α : Type} (done : Parser Bool) (step : Parser (List α)) : Parser (List α) := do
  let found ← repeatStep [] fun found => do
    if ← done then return (found, false)
    else
      let more ← step
      let found := more.reverse ++ found
      if ← eat .comma then return (found, true)
      else do
        if !(← done) then expect .comma
        return (found, false)
  return found.reverse

/-- Whether the current token starts with a closing angle bracket. -/
def atGreater : Parser Bool := do
  match (← get).token with
  | .punct .gt | .punct .ge | .punct .shr | .punct .ushr | .punct .shrAssign | .punct .ushrAssign => return true
  | _ => return false

/-- Reads type arguments in angle brackets. -/
def typeArguments (read : Reader) : Parser (List Node) := do
  expectLess
  let types ← commaList atGreater (read .type)
  expectGreater
  return types

def typeArguments? (read : Reader) : Parser (List Node) := do
  if (← isMark .lt) || (← isMark .shl) then typeArguments read else return []

/-- Whether a word can be a modifier: after it stands another word or, on the same line, something else that
can be modified. -/
def modifierFollows : Parser Bool := do
  let (next, broken) ← peek
  match next with
  | .word _ | .plainName _ => return true
  | .text _ | .number _ | .bigint _ | .privateName _ | .punct .hash | .punct .bracketOpen | .punct .braceOpen
  | .punct .star | .punct .ellipsis => return !broken
  | _ => return false

/-- Passes over one of some words, if it is a modifier here, and gives it. -/
def modifier? (words : List String) : Parser (Option String) := do
  match (← get).token with
  | .word w =>
    if words.contains w && (← modifierFollows) then
      bump
      return some w
    else return none
  | _ => return none

/-- What takes type parameters. -/
inductive Generic where
  | classLike
  | typeName
  | function
deriving DecidableEq, Repr

/-- Words that are read before a type parameter. -/
def typeParameterWords : List String :=
  ["public", "private", "protected", "readonly", "abstract", "const", "override", "in", "out"]

/-- What is wrong with a word before a type parameter after those already read. -/
def typeParameterFault? (owner : Generic) (earlier : List String) (word : String) : Option Fault :=
  if word == "const" then if owner == .typeName then some .constTypeParameter else none
  else if word == "in" || word == "out" then
    if owner == .function then some (.varianceHere word)
    else if earlier.contains word then some (.repeatedModifier word)
    else if word == "in" && earlier.contains "out" then some (.lateModifier word "out")
    else none
  else some (.typeParameterModifier word)

/-- Reads one type parameter with its bound and default. -/
def typeParameter (read : Reader) (owner : Generic) : Parser (List Node) := do
  let _ ← repeatStep [] fun earlier => do
    match ← modifier? typeParameterWords with
    | some word => do
      if let some fault := typeParameterFault? owner earlier word then report (← get).previous fault
      return (word :: earlier, true)
    | none => return (earlier, false)
  let _ ← anyName
  let bound ← if ← eatWord "extends" then read .type else pure []
  let fallback ← if ← eat .assign then read .type else pure []
  return bound ++ fallback

/-- Reads type parameters in angle brackets. -/
def typeParameters (read : Reader) (owner : Generic) : Parser (List Node) := do
  expectLess
  let types ← commaList atGreater (typeParameter read owner)
  expectGreater
  return types

def typeParameters? (read : Reader) (owner : Generic) : Parser (List Node) := do
  if (← typed) && (← isMark .lt) then typeParameters read owner else return []

/-! ## Return types -/

/-- Reads a type, or a statement about a parameter in place of one. -/
def typeOrPredicate (read : Reader) : Parser (List Node) := do
  let asserts ← isWord "asserts" <&&> peekName
  if asserts then bump
  let (next, broken) ← peek
  let judges ← do pure ((← isName) && next == .word "is" && !broken)
  if judges then
    bump
    bump
    read .type
  else if asserts then
    let _ ← anyName
    return []
  else read .type

/-- Reads a return type if a colon announces one. -/
def returnType? (read : Reader) : Parser (List Node) := do
  if (← typed) && (← isMark .colon) then
    bump
    typeOrPredicate read
  else return []

/-! ## Members of object types -/

/-- Ends a member of an object type. -/
def memberEnd : Parser Unit := do
  if !(← eat .comma) then expectSemicolon

def isDefaulted : Node → Bool
  | .patternDefault _ _ _ => true
  | _ => false

/-- Reads the parameters of a signature and passes over their closing parenthesis. None has a default value. -/
def signatureParameters (read : Reader) : Parser (List Node) := do
  let found ← parameters read
  if found.any isDefaulted then
    unexpected ("an identifier, [ for an array pattern, \x7b for an object patter or ... for a rest pattern")
  expect .parenClose
  return found

/-- Reads the rest of a signature: type parameters, parameters and what it gives. -/
def signature (read : Reader) : Parser (List Node) := do
  let types ← typeParameters? read .function
  expect .parenOpen
  let parameters ← signatureParameters read
  let result ← returnType? read
  return parameters ++ result ++ types

/-- Reads an index signature if one starts here: a name and its type in brackets. -/
def indexSignature? (read : Reader) : Parser (Option (List Node)) := do
  if ← isMark .bracketOpen then
    let starts ← lookAhead do
      bump
      if ← isName then
        bump
        return (← isMark .colon) || (← isMark .comma)
      else return false
    if starts then do
      bump
      let id ← anyName
      if ← eat .comma then report id.span .indexParameters else expect .colon
      let key ← read .type
      expect .bracketClose
      let value := (← annotation? read).getD []
      memberEnd
      return some (key ++ value)
    else return none
  else return none

/-- Reads the key of a member of an object type: the expression of a computed key is its part. A hidden name is a
complaint. -/
def signatureKey (read : Reader) : Parser (List Node) := do
  let s ← get
  match s.token with
  | .punct .bracketOpen => do
    bump
    let node ← inContext ({ · with allowIn := true }) (read .assignment)
    expect .bracketClose
    return [node]
  | .text _ | .number _ => do
    bump
    return []
  | .privateName _ => do
    bump
    report s.span .hiddenSignature
    return []
  | .punct .hash => looseHash
  | _ => do
    let _ ← anyName
    return []

/-- Reads a getter or a setter of an object type, if one starts here. A setter has a parameter and gives
nothing. -/
def accessorSignature? (read : Reader) : Parser (Option (List Node)) := attempt do
  let isGetter ← if ← eatWord "get" then pure true else do
    expectWord "set"
    pure false
  let keyParts ← signatureKey read
  expect .parenOpen
  if isGetter then
    expect .parenClose
    let result := (← annotation? read).getD []
    memberEnd
    return some (keyParts ++ result)
  else do
    let parameters ← signatureParameters read
    if parameters.isEmpty then failHere .setterParameters
    memberEnd
    return some (keyParts ++ parameters)

def typeMember (read : Reader) : Parser (List Node) := do
  let (next, _) ← peek
  match (← get).token, next with
  | .punct .parenOpen, _ | .punct .lt, _ => do
    let types ← signature read
    memberEnd
    return types
  | .word "new", .punct .parenOpen | .word "new", .punct .lt => do
    bump
    let types ← signature read
    memberEnd
    return types
  | _, _ => do
    let readonly := (← modifier? ["readonly"]).isSome
    if let some types ← indexSignature? read then return types
    else
      let accessor ← if readonly then pure none else accessorSignature? read
      if let some types := accessor then return types
      else do
        let keyParts ← signatureKey read
        let _ ← eat .question
        let types ← if (← isMark .parenOpen) || (← isMark .lt) then do
            if readonly then failHere .readonlyMethod
            signature read
          else do pure ((← annotation? read).getD [])
        memberEnd
        return keyParts ++ types

def typeMembers (read : Reader) : Parser (List Node) := do
  expect .braceOpen
  let members ← collectUntil (isMark .braceClose) (typeMember read)
  expect .braceClose
  return members.flatten

/-- Whether a type made from the keys of another starts here. -/
def startsMappedType : Parser Bool := lookAhead do
  bump
  if ← eat .plus <||> eat .minus then isWord "readonly"
  else do
    let _ ← eatWord "readonly"
    if ← eat .bracketOpen then
      if ← isName then
        bump
        isWord "in"
      else return false
    else return false

/-- Passes over a modifier of a mapped type, which has to follow a sign. -/
def mappedModifier (modifier : Parser Bool) (name : String) : Parser Unit := do
  let signed ← eat .plus <||> eat .minus
  let found ← modifier
  if signed && !found then failHere (.expected name (← get).tokenText)

/-- Reads a type made from the keys of another. -/
def mappedType (read : Reader) : Parser (List Node) := do
  expect .braceOpen
  mappedModifier (eatWord "readonly") "readonly"
  expect .bracketOpen
  let _ ← anyName
  expectWord "in"
  let keys ← read .type
  let names ← if ← eatWord "as" then read .type else pure []
  expect .bracketClose
  mappedModifier (eat .question) "?"
  let value := (← annotation? read).getD []
  expectSemicolon
  expect .braceClose
  return keys ++ names ++ value

/-! ## Types in the order in which they bind -/

/-- Reads a name of several parts. The parts after the first may be reserved words if `reserved`; a missing one is a
complaint. -/
def qualifiedName (reserved : Bool) : Parser Unit := do
  let first ← anyName
  if first.name == "void" then report (.point (← get).previous.hi) .semicolonExpected
  let _ ← repeatStep () fun _ => do
    if ← eat .dot then
      match (← get).token with
      | .word _ | .plainName _ | .privateName _ | .punct .hash => do
        let _ ← if reserved then anyName else variableName
        return ((), true)
      | _ => do
        report (.point (← get).previous.hi) .nameMissing
        return ((), false)
    else return ((), false)

/-- Reads type arguments that stand on the same line, if they do. -/
def sameLineArguments? (read : Reader) : Parser (List Node) := do
  if ← afterBreak then return [] else typeArguments? read

/-- What an element of a tuple type asks of a tuple. -/
inductive TupleElement where
  | required
  | optional
  | rest
deriving DecidableEq, Repr

/-- Passes over the name of an element of a tuple type, if it has one, with the dots before it. -/
def elementLabel : Parser Unit := do
  let _ ← attempt do
    let _ ← eat .ellipsis
    let _ ← anyName
    let _ ← eat .question
    expect .colon
    return some ()

def tupleElement (read : Reader) : Parser (TupleElement × List Node) := do
  elementLabel
  if ← eat .ellipsis then return (.rest, ← read .type)
  else do
    let types ← read .type
    return (if ← eat .question then .optional else .required, types)

/-- Whether a required element follows an optional one. -/
def isMisordered : List TupleElement → Bool
  | [] => false
  | .optional :: rest => rest.contains .required || isMisordered rest
  | _ :: rest => isMisordered rest

def tupleType (read : Reader) : Parser (List Node) := do
  let lo ← here
  expect .bracketOpen
  let elements ← commaList (isMark .bracketClose) do return [← tupleElement read]
  expect .bracketClose
  if isMisordered (elements.map (·.1)) then fail (← spanFrom lo) .requiredElement
  return elements.flatMap (·.2)

/-- Passes over a piece of a template, which ends at `stop`, before the text `rest`. Unless the template is tagged, an
escape that stands for nothing stops there. -/
def passPiece (tagged : Bool) (stop : Nat) (rest : List Char) : Parser Unit := do
  let s ← get
  let fault := if tagged then none else templateFault (stop - s.span.hi) none s.span.hi s.rest
  modify (·.advancePast stop rest)
  match fault with
  | some problem => throw problem
  | none => pure ()

/-- Reads the holes of a template, each with `hole`, from its back quote on. -/
def templateHoles {α : Type} (tagged : Bool) (hole : Parser α) : Parser (List α) := do
  let found ← repeatStep [] fun found => do
    let s ← get
    let (ending, stop, rest) := scanTemplate s.span.hi s.rest
    match ending with
    | .unterminated => do
      let span : Span := ⟨s.span.lo, stop⟩
      modify fun s => { s with token := .broken ⟨span, .unterminatedTemplate⟩, span := ⟨s.span.lo, stop⟩, rest := rest }
      failHere .endOfText
    | .closed => do
      passPiece tagged stop rest
      return (found, false)
    | .hole => do
      passPiece tagged stop rest
      let inner ← hole
      if !(← isMark .braceClose) then failHere (.expected "\x7d" (← get).tokenText)
      return (inner :: found, true)
  return found.reverse

/-- Whether a function type starts at this parenthesis: something follows that only parameters have. -/
def startsFunctionType (read : Reader) : Parser Bool := lookAhead do
  bump
  if (← isMark .parenClose) || (← isMark .ellipsis) then return true
  else do
    let _ ← eatModifier
    let passed ← if (← isName) || (← isWord "this") then do
        bump
        pure true
      else if (← isMark .braceOpen) || (← isMark .bracketOpen) then do
        let _ ← read .pattern
        pure true
      else pure false
    if passed then
      if (← isMark .colon) || (← isMark .comma) || (← isMark .question) || (← isMark .assign) then return true
      else if ← eat .parenClose then isMark .arrow
      else return false
    else return false

/-- Reads a function type: its parameters and, after an arrow, what it gives. -/
def functionType (read : Reader) : Parser (List Node) := do
  let types ← typeParameters? read .function
  expect .parenOpen
  let parameters ← signatureParameters read
  expect .arrow
  let result ← typeOrPredicate read
  return parameters ++ types ++ result

/-- Reads the properties of an object literal, whose first token is passed over, whatever it is. -/
def attributes (read : Reader) : Parser (List Node) := do
  let lo ← here
  bump
  read (.properties lo)

/-- Reads a type that a module exports, after the word `import`. -/
def importType (read : Reader) : Parser (List Node) := do
  expect .parenOpen
  let argument ← get
  bump
  match argument.token with
  | .text _ => pure ()
  | _ => report argument.span .importTypeArgument
  let options ← if ← eat .comma <&&> eat .braceOpen then do
      expectWord "with"
      expect .colon
      let options ← attributes read
      let _ ← eat .comma
      expect .braceClose
      pure options
    else pure []
  expect .parenClose
  if ← eat .dot then qualifiedName false
  let types ← sameLineArguments? read
  return types ++ options

/-- The names of types that belong to the language, unless a dot follows them. -/
def basicTypes : List String := [
  "void", "null", "any", "boolean", "bigint", "never", "number", "object", "string", "symbol", "unknown", "undefined",
  "intrinsic"]

/-- Keywords that may start a type like a name. -/
def typeKeywords : List String := ["void", "null", "break", "enum"]

/-- Reads a name with the type arguments after it. A word for parameters before it is a complaint. -/
def namedType (read : Reader) : Parser (List Node) := do
  let lo ← here
  let modified ← eatModifier
  qualifiedName true
  let types ← sameLineArguments? read
  if modified then report (← spanFrom lo) .parameterProperty
  return types

/-- Reads a type that no operator joins to another. -/
def primaryType (read : Reader) : Parser (List Node) := do
  checkScanned
  let s ← get
  match s.token with
  | .eof => failHere .endOfText
  | .text _ | .number _ | .bigint _ => do
    bump
    return []
  | .punct .minus => do
    bump
    match (← get).token with
    | .number _ | .bigint _ => do
      bump
      return []
    | _ => unexpected "numeric literal or bigint literal"
  | .punct .backtick => do
    let holes ← templateHoles false (read .type)
    return holes.flatten
  | .punct .braceOpen => if ← startsMappedType then mappedType read else typeMembers read
  | .punct .bracketOpen => tupleType read
  | .punct .parenOpen => do
    bump
    let types ← read .type
    expect .parenClose
    return types
  | .word "true" | .word "false" => do
    bump
    return []
  | .word "import" => do
    bump
    importType read
  | .word "this" => do
    bump
    if (← isWord "is") && !(← afterBreak) then
      bump
      read .type
    else return []
  | .word "typeof" => do
    bump
    let named ← if ← eatWord "import" then importType read else do
      qualifiedName true
      pure []
    return named ++ (← sameLineArguments? read)
  | .word w => do
    if w == "let" || (keywords.contains w && !typeKeywords.contains w) then
      unexpected ("an identifier, void, yield, null, await, break, a string literal, a numeric literal, true, " ++
        "false, `, -, import, this, typeof, \x7b, [, (")
    else if w == "asserts" && (← peekWord "this") then do
      bump
      bump
      if ← eatWord "is" then read .type else return []
    else if basicTypes.contains w && !(← peekMark .dot) then do
      bump
      return []
    else namedType read
  | .plainName _ => namedType read
  | _ =>
    unexpected ("an identifier, void, yield, null, await, break, a string literal, a numeric literal, true, " ++
      "false, `, -, import, this, typeof, \x7b, [, (")

/-- Reads a type and the brackets after it. -/
def arrayType (read : Reader) : Parser (List Node) := do
  let first ← primaryType read
  repeatStep first fun types => do
    if (← isMark .bracketOpen) && !(← afterBreak) then
      bump
      if ← eat .bracketClose then return (types, true)
      else do
        let index ← read .type
        expect .bracketClose
        return (types ++ index, true)
    else return (types, false)

/-- Whether the word is an operator on the type that follows it. -/
def isTypeOperator (word : String) : Bool := word == "keyof" || word == "unique" || word == "readonly"

/-- Reads types joined by a mark, which may also stand before the first. -/
def joinedTypes (mark : Punct) (one : Parser (List Node)) : Parser (List Node) := do
  let _ ← eat mark
  let first ← one
  repeatStep first fun types => do
    if ← eat mark then
      let more ← one
      return (types ++ more, true)
    else return (types, false)

/-- Reads a type that operators may precede. -/
def operatorType (read : Reader) : Parser (List Node) := do
  let _ ← repeatStep () fun _ => do
    match (← get).token with
    | .word w =>
      if isTypeOperator w then
        bump
        return ((), true)
      else return ((), false)
    | _ => return ((), false)
  if ← eatWord "infer" then
    let _ ← anyName
    let bound ← attempt do
      expectWord "extends"
      let bound ← read .plainType
      if (← context).noConditionalType || !(← isMark .question) then return some bound else return none
    return bound.getD []
  else arrayType read

/-- Reads a type that no condition follows. -/
def plainType (read : Reader) : Parser (List Node) := do
  let (next, _) ← peek
  match (← get).token, next with
  | .punct .lt, _ => functionType read
  | .word "new", _ => do
    bump
    functionType read
  | .word "abstract", .word "new" => do
    bump
    bump
    functionType read
  | .punct .parenOpen, _ =>
    if ← startsFunctionType read then functionType read
    else joinedTypes .pipe (joinedTypes .amp (operatorType read))
  | _, _ => joinedTypes .pipe (joinedTypes .amp (operatorType read))

def type (read : Reader) : Parser (List Node) := do
  let first ← inContext ({ · with noConditionalType := false }) (plainType read)
  if !(← afterBreak) && (← isWord "extends") then do
    bump
    let bound ← inContext ({ · with noConditionalType := true }) (plainType read)
    expect .question
    let yes ← read .type
    expect .colon
    let no ← read .type
    return first ++ bound ++ yes ++ no
  else return first

/-- Reads the types that a class implements or an interface extends. -/
def heritage (read : Reader) : Parser (List Span × List Node) := do
  let done : Parser Bool := do return (← isMark .braceOpen) || (← isWord "implements") || (← isWord "extends")
  let found ← commaList done do
    let lo ← here
    qualifiedName true
    let types ← typeArguments? read
    return [(← spanFrom lo, types)]
  return (found.map (·.1), found.flatMap (·.2))

end NameCheck.Syntax.Parser
