import NameCheck.Syntax.Parse.Class
import NameCheck.Syntax.Parse.Markup

/-!
Expressions.
-/
namespace NameCheck.Syntax

def Node.isArrow : Node → Bool
  | .arrow _ _ => true
  | _ => false

/-- Whether the node is a member or a call of an optional chain. -/
def Node.isChained : Node → Bool
  | .member _ chained _ _ => chained
  | .optCall _ _ _ _ => true
  | .group (.index chained) _ _ => chained
  | .group (.privateMember chained) _ _ => chained
  | _ => false

/-- Whether the node goes on an optional chain, with or without marks that it is not null. -/
def Node.continuesChain : Node → Bool
  | .group .nonNull _ (inner :: _) => inner.continuesChain
  | node => node.isChained

/-- Whether a callee is the word `super` or the word `import`. -/
def Node.isSpecialCallee : Node → Bool
  | .group .superRef _ _ => true
  | .group .importRef _ _ => true
  | _ => false

namespace Parser

/-! ## Arguments and arrays -/

/-- Reads an expression that may be spread. -/
def spreadable (read : Reader) : Parser Node := do
  let lo ← here
  if ← eat .ellipsis then
    let inner ← inContext ({ · with allowIn := true }) (read .assignment)
    return .spread (← spanFrom lo) inner
  else inContext ({ · with allowIn := true }) (read .assignment)

def arguments (read : Reader) : Parser (List Node) :=
  inContext ({ · with colonFollows := false }) do
    expect .parenOpen
    let found ← repeatStep [] fun found => do
      if (← atEnd) || (← isMark .parenClose) then return (found, false)
      else do
        let argument ← spreadable read
        if (← atEnd) || (← isMark .parenClose) then return (argument :: found, false)
        else do
          expect .comma
          return (argument :: found, true)
    expect .parenClose
    return found.reverse

def arrayLiteral (read : Reader) : Parser Node :=
  inContext ({ · with colonFollows := false }) do
    let lo ← here
    expect .bracketOpen
    let parts ← repeatStep [] fun parts => do
      if (← atEnd) || (← isMark .bracketClose) then return (parts, false)
      else if ← isMark .comma then
        let span := (← get).span
        bump
        return (Node.group .hole span [] :: parts, true)
      else do
        let element ← spreadable read
        if !(← isMark .bracketClose) then
          expect .comma
          if ← isMark .bracketClose then
            modify fun s => { s with trailingCommas := (lo, s.previous) :: s.trailingCommas }
        return (element :: parts, true)
    expect .bracketClose
    return .group .array (← spanFrom lo) parts.reverse

/-- Reads a template, from its back quote on. -/
def template (read : Reader) (tagged : Bool) : Parser Node := do
  let lo ← here
  let holes ← inContext ({ · with allowIn := true, colonFollows := false })
    (templateHoles tagged (read .expression))
  return .group .template (← spanFrom lo) holes

/-! ## Arrow functions and parentheses -/

/-- Reads the body of an arrow function with the given parameters: a block or an expression. -/
def arrowBody (read : Reader) (isAsync : Bool) (parameters : List Node) : Parser (List Node × Bool) :=
  functionBody isAsync false true do
    if ← isMark .braceOpen then
      let parts ← inContext ({ · with allowIn := true, colonFollows := false, inConditional := false }) (block read)
      checkDirective parameters parts
      return (parts, true)
    else return ([← read .assignment], false)

/-- What stands in parentheses before it is known whether it is a list of parameters. -/
structure ParenItem where
  node : Node
  isPattern : Bool
deriving Inhabited

/-- Reads the items in parentheses as parameters. -/
def itemsToParameters (trailing : Option Span) : List ParenItem → Parser (List Node)
  | [] => return []
  | [item] =>
    match item.node, item.isPattern with
    | .spread span inner, false => do
      match inner with
      | .assign _ _ _ _ => report span .restInitialised
      | _ => pure ()
      if let some comma := trailing then report comma .commaAfterRest
      return [.group .rest inner.span [← toPattern .binding inner]]
    | node, true => do
      match node, trailing with
      | .group .rest _ _, some comma => report comma .commaAfterRest
      | _, _ => pure ()
      return [node]
    | node, false => return [← toPattern .binding node]
  | item :: rest =>
    match item.node, item.isPattern with
    | .spread span _, false => do
      report span .restNotLast
      itemsToParameters trailing rest
    | .group .rest span _, true => do
      report span .restNotLast
      itemsToParameters trailing rest
    | node, true => return node :: (← itemsToParameters trailing rest)
    | node, false => do
      let pattern ← toPattern .binding node
      return pattern :: (← itemsToParameters trailing rest)

/-- Ends an assignment whose left side is `left`, if an assignment operator stands here. -/
def finishAssignment (read : Reader) (lo : Nat) (left : Node) : Parser Node := do
  match (← get).token with
  | .punct operator =>
    if operator.isAssignment then do
      let target ← if operator == .assign then toPattern .assignment left
        else do
          checkChanged left
          pure left
      if !isAssignable target then fail target.span .invalidTarget
      bump
      let value ← read .assignment
      return .assign (← spanFrom lo) operator target value
    else return left
  | _ => return left

/-- Reads an operand and the operators after it. An operand that is missing before an operator is a
complaint; at the end of the text it stops the parse. -/
def binary (read : Reader) : Parser Node := do
  let left ← tryCatch (read .unary) fun problem => do
    let s ← get
    let recovers := match s.token with
      | .word "in" => s.context.allowIn
      | .word "instanceof" => true
      | .punct mark => mark.precedence?.isSome
      | _ => false
    match s.token with
    | .eof => throw ⟨s.span, .endOfText⟩
    | .broken inner => do
      bump
      throw inner
    | _ =>
      if recovers then do
        report s.span .expressionExpected
        pure (.group .invalid problem.span [])
      else throw problem
  if left.isArrow then return left else read (.binaryRest left 0)

/-- The context between the question mark and the colon of a conditional expression. -/
def consequentContext (c : Context) : Context := { c with inConditional := true, colonFollows := true, allowIn := true }

/-- The context after the colon of a conditional expression. -/
def alternativeContext (c : Context) : Context := { c with inConditional := true, colonFollows := false }

/-- Reads the rest of a conditional expression after its question mark. -/
def conditionalRest (read : Reader) (lo : Nat) (test : Node) : Parser Node := do
  let yes ← inContext consequentContext (read .assignment)
  expect .colon
  let no ← inContext alternativeContext (read .assignment)
  return .group .conditional ⟨lo, no.span.hi⟩ [test, yes, no]

/-- Reads a conditional expression or what may stand in its place. -/
def conditional (read : Reader) : Parser Node := do
  let lo ← here
  let test ← binary read
  if test.isArrow then return test
  else if ← eat .question then conditionalRest read lo test
  else return test

/-- Whether a type may stand after a pattern. -/
def takesType : Node → Bool
  | .ident _ | .group .arrayPattern _ _ | .group .objectPattern _ _ | .group .rest _ _ => true
  | _ => false

/-- Reads one item in parentheses where types are read: a name may be followed by a question mark or by a
type. -/
def typedItem (read : Reader) : Parser ParenItem := do
  let lo ← here
  modify fun s => { s with arrowStart := some lo }
  let modified ← eatModifier
  let patternLo ← here
  let spreadName ← do
    if ← isMark .ellipsis then peekName else pure false
  let node ← if ← isName then do
      let node ← binary read
      if node.isArrow then pure node else finishAssignment read lo node
    else if spreadName then do
      bump
      let inner ← binary read
      pure (.spread (← spanFrom patternLo) inner)
    else spreadable read
  let (node, optional) ← if ← isMark .question then do
      match (← peek).1 with
      | .punct .comma | .punct .assign | .punct .colon | .punct .parenClose => do
        bump
        let inner ← match node with
          | .spread _ inner => do
            report (← get).previous .restOptional
            pure inner
          | node => pure node
        match inner with
        | .ident _ => pure ()
        | _ => fail node.span .optionalPattern
        pure (node, true)
      | _ =>
        match node with
        | .spread _ _ => pure (node, false)
        | _ => do
          bump
          pure (← conditionalRest read lo node, false)
    else pure (node, false)
  if optional || (← isMark .colon) then do
    let pattern ← match node with
      | .spread _ inner => do
        let target ← toPattern .binding inner
        pure (Node.group .rest (← spanFrom patternLo) [target])
      | node => toPattern .binding node
    let annotation ← if takesType pattern then annotation? read else pure none
    let pattern ← match annotation with
      | some types => do pure (annotatedPattern pattern (← get).previous.hi types)
      | none => pure pattern
    let pattern ← if ← eat .assign then do
        if optional then report pattern.span .optionalInitialised
        let value ← read .assignment
        pure (Node.patternDefault (← spanFrom patternLo) pattern value)
      else pure pattern
    if modified then report (← spanFrom lo) .parameterProperty
    return ⟨pattern, true⟩
  else do
    if modified then report (← spanFrom lo) .parameterProperty
    return ⟨node, false⟩

/-- Reads an arrow after the items so far, if one stands here. If the first item is a name, the items are also the
parameters of an arrow function, which becomes one more item. -/
def lateArrow (read : Reader) (items : List ParenItem) : Parser (List ParenItem) := do
  if ← eat .arrow then
    match items with
    | ⟨.ident id, _⟩ :: _ | ⟨.group .annotated _ (.ident id :: _), true⟩ :: _ => do
      let parameters ← itemsToParameters none items
      for parameter in parameters do checkBound parameter
      let (body, _) ← arrowBody read false parameters
      return items ++ [⟨.arrow ⟨← spanFrom id.span.lo, false⟩ (parameters ++ body), false⟩]
    | _ => return items
  else return items

/-- Reads the items in parentheses, and the comma that closed them if one did. -/
def parenItems (read : Reader) : Parser (List ParenItem × Option Span) := do
  expect .parenOpen
  let (items, trailing) ← repeatStep (([] : List ParenItem), (none : Option Span)) fun (items, trailing) => do
    if (← atEnd) || (← isMark .parenClose) then return ((items, trailing), false)
    else do
      let item ← if ← typed then typedItem read
        else do pure ⟨← spreadable read, false⟩
      let items := (← lateArrow read (item :: items).reverse).reverse
      let trailing ← if ← isMark .parenClose then pure none
        else do
          expect .comma
          if ← isMark .parenClose then pure (some (← get).previous) else pure none
      return ((items, trailing), true)
  expect .parenClose
  return (items.reverse, trailing)

/-- Complains about properties with default values in an object that is no pattern. -/
def checkProperties : Node → Parser Unit
  | .group .object _ parts => do
    for part in parts do
      if let .group .defaultedProperty span _ := part then report span .defaultedProperty
  | _ => pure ()

/-- Reads the arrow and the body of an arrow function with the given parameters. -/
def arrowRest (read : Reader) (lo : Nat) (isAsync : Bool) (items : List ParenItem) (trailing : Option Span)
    (result : List Node) : Parser (Node × Bool) := do
  expect .arrow
  let parameters ← itemsToParameters trailing items
  for parameter in parameters do checkBound parameter
  let (body, isBlock) ← arrowBody read isAsync parameters
  return (.arrow ⟨← spanFrom lo, isAsync⟩ (parameters ++ body ++ result), isBlock)

/-- The expression that stands in parentheses. -/
def parenthesised (lo : Nat) (items : List ParenItem) : Parser Node := do
  let nodes ← items.mapM fun item =>
    match item.node, item.isPattern with
    | node, true => fail node.span .invalidExpression
    | .spread _ inner, false => fail inner.span .spreadInParens
    | node, false => pure node
  let span ← spanFrom lo
  match nodes with
  | [] => fail span .emptyParens
  | [node] => return .paren span node
  | first :: rest =>
    let hi := ((first :: rest).getLast?.getD first).span.hi
    return .paren span (.group .sequence ⟨first.span.lo, hi⟩ (first :: rest))

/-- Reads what starts with a parenthesis: an expression in parentheses, an arrow function or, after `async`,
a call of a function with that name. -/
def parenOrArrow (read : Reader) (canBeArrow : Bool) (asyncSpan : Option Span) : Parser Node := do
  let lo ← match asyncSpan with
    | some span => pure span.lo
    | none => here
  let isAsync := asyncSpan.isSome
  let (items, trailing) ← inContext ({ · with colonFollows := false, allowIn := true }) (parenItems read)
  let hasPattern := items.any (·.isPattern)
  let outer ← context
  let early ← if (← typed) && outer.inConditional && (← isMark .colon) then attempt do
      bump
      let result ← typeOrPredicate read
      let (node, _) ← arrowRest read lo isAsync items trailing result
      if outer.colonFollows && !(← isMark .colon) then return none else return some node
    else pure none
  match early with
  | some node => return node
  | none => do
    let result ← if !outer.colonFollows && (← typed) && (← isMark .colon) then attempt do
        bump
        let result ← typeOrPredicate read
        if ← isMark .arrow then return some result else return none
      else pure none
    if hasPattern || result.isSome || (← isMark .arrow) then do
      if ← afterBreak then fail (← spanFrom lo) .arrowLineBreak
      if !canBeArrow then fail (← spanFrom lo) .arrowHere
      let (node, isBlock) ← arrowRest read lo isAsync items trailing (result.getD [])
      let followed := match (← get).token with
        | .punct mark => mark.precedence?.isSome
        | _ => false
      if isBlock && followed then do
        report (← get).span .semicolonExpected
        read (.binaryRest node 0)
      else return node
    else do
      for item in items do
        if !item.isPattern then checkProperties item.node
      match asyncSpan with
      | some span =>
        return .call (← spanFrom lo) (.ident ⟨span, "async"⟩) (items.map (·.node)) []
      | none => parenthesised lo items

/-- Reads an asynchronous arrow function with type parameters, after `async`. -/
def genericAsyncArrow (read : Reader) (lo : Nat) : Parser (Option Node) := do
  let head ← attempt do
    let types ← typeParameters read .function
    expect .parenOpen
    let parameters ← inContext (parameterContext true false) (parameters read)
    expect .parenClose
    let result ← returnType? read
    expect .arrow
    return some (types, parameters, result)
  match head with
  | none => return none
  | some (types, parameters, result) => do
    let (body, _) ← arrowBody read true parameters
    return some (.arrow ⟨← spanFrom lo, true⟩ (parameters ++ body ++ types ++ result))

/-! ## Primary expressions -/

/-- Whether the current word may refer to a variable. -/
def atReference : Parser Bool := do
  match (← get).token with
  | .word w => return !isReserved w || w == "let"
  | .plainName _ => return true
  | _ => return false

/-- Reads a regular expression, from the start of the token on that its slash belongs to. -/
def regex : Parser Node := do
  let s ← get
  match scanRegex s.span.lo s.source with
  | some (stop, rest, problems) => do
    modify (·.advancePast stop rest)
    for problem in problems do report problem.span problem.fault
    return .group .literal ⟨s.span.lo, stop⟩ []
  | none => do
    let problem : Problem := ⟨⟨s.span.lo, s.span.lo + 1⟩, .unterminatedRegex⟩
    modify fun s => { s with
      token := .broken problem, span := .point s.span.hi, source := s.rest, previous := s.span, newline := false
      stuck := some problem }
    failHere .expressionExpected

/-- Reads what starts with the word `async`, unless it is a plain name. -/
def asyncStart (read : Reader) (canBeArrow : Bool) : Parser (Option Node) := do
  let s ← get
  let (next, broken) ← peek
  match next with
  | .word "function" =>
    if broken then return none
    else do
      bump
      some <$> functionExpression read s.span.lo true
  | .punct .lt =>
    if canBeArrow && (← typed) then attempt do
      bump
      genericAsyncArrow read s.span.lo
    else return none
  | .punct .parenOpen =>
    if canBeArrow && !broken then do
      bump
      some <$> parenOrArrow read canBeArrow (some s.span)
    else return none
  | _ => return none

/-- Reads an expression that starts with a name: the name or an arrow function with one parameter. -/
def nameOrArrow (read : Reader) (canBeArrow : Bool) : Parser Node := do
  let lo ← here
  let id ← variableName
  let binds ← isName
  if canBeArrow && id.name == "async" && !(← afterBreak) && binds then do
    if (← context).loopHead && (← isWord "of") && !(← peekMark .arrow) then do
      if !(← context).awaitedLoop then report id.span .asyncLoopVariable
      return .ident id
    else do
      let parameter ← inContext ({ · with inAsync := true }) bindingName
      if (← typed) && parameter.name == "as" && !(← isMark .arrow) then do
        let types ← read .type
        return .group .asType (← spanFrom lo) (.ident id :: types)
      else do
        expect .arrow
        let (body, _) ← arrowBody read true []
        return .arrow ⟨← spanFrom lo, true⟩ (.ident parameter :: body)
  else if canBeArrow && (← isMark .arrow) && !(← afterBreak) then do
    bump
    if id.name == "eval" || id.name == "arguments" then report id.span .strictBinding
    let (body, _) ← arrowBody read false []
    return .arrow ⟨← spanFrom lo, false⟩ (.ident id :: body)
  else return .ident id

/-- Reads an expression that no operator takes apart. -/
def primary (read : Reader) : Parser Node := do
  let s ← get
  let lo := s.span.lo
  let canBeArrow := s.arrowStart == some lo
  let literal : Parser Node := do
    bump
    return .group .literal s.span []
  match s.token with
  | .word "this" => do
    bump
    return .group .this s.span []
  | .word "null" | .word "true" | .word "false" | .number _ | .bigint _ => literal
  | .text _ => do
    bump
    return .group (.text s.spelling) s.span []
  | .word "function" => functionExpression read lo false
  | .word "class" => do
    let (_, node) ← classFromWord read lo false false
    return node
  | .punct .bracketOpen => arrayLiteral read
  | .punct .braceOpen => objectLiteral read
  | .punct .parenOpen => parenOrArrow read canBeArrow none
  | .punct .backtick => template read false
  | .punct .slash | .punct .slashAssign => regex
  | .privateName _ => do
    bump
    return .group .privateName s.span []
  | .punct .hash => looseHash
  | token => do
    let started ← if token == .word "async" then asyncStart read canBeArrow else pure none
    match started with
    | some node => return node
    | none => if ← atReference then nameOrArrow read canBeArrow else failHere .expressionExpected

/-! ## Members and calls -/

/-- A member of `base` named by a word, a hidden name or an expression in brackets, chained or not. -/
def memberNode (span : Span) (chained : Bool) (base : Node) (name : Ident ⊕ Ident) : Node :=
  let chained := chained || base.continuesChain
  match name with
  | .inl id => .member span chained base id
  | .inr _ => .group (.privateMember chained) span [base]

/-- A call of `base`, which belongs to an optional chain if its callee does. -/
def callNode (span : Span) (chained : Bool) (base : Node) (arguments types : List Node) : Node :=
  if chained || base.continuesChain then .optCall span base arguments types else .call span base arguments types

/-- Whether an expression may start with the current token. -/
def atExpressionStart : Parser Bool := do
  match (← get).token with
  | .word w =>
    if !isReserved w then return true
    else return ["this", "super", "null", "true", "false", "function", "class", "new", "delete", "typeof", "void",
      "await", "yield", "import"].contains w
  | .plainName _ | .text _ | .number _ | .bigint _ | .privateName _ => return true
  | .punct mark =>
    return [Punct.backtick, .parenOpen, .bracketOpen, .braceOpen, .plus, .minus, .tilde, .bang, .plusPlus,
      .minusMinus, .lt, .slash, .slashAssign].contains mark
  | _ => return false

/-- Reads type arguments that no call follows. -/
def instantiation? (read : Reader) : Parser (Option (List Node)) := attempt do
  let types ← typeArguments read
  let s ← get
  match s.token with
  | .punct .lt | .punct .gt | .punct .plus | .punct .minus | .punct .parenOpen | .punct .backtick => return none
  | .punct mark =>
    if s.newline || mark.precedence?.isSome || !(← atExpressionStart) then return some types else return none
  | _ => if s.newline || !(← atExpressionStart) then return some types else return none

/-- Reads what type arguments after an expression belong to: a call, a tagged template or a value. -/
def typedSubscript? (read : Reader) (lo : Nat) (base : Node) (callAllowed : Bool) : Parser (Option Node) := attempt do
  let types ← typeArguments read
  if callAllowed && (← isMark .parenOpen) then do
    let arguments ← arguments read
    let span ← spanFrom lo
    return some (if base.isChained then .optCall span base arguments types else .call span base arguments types)
  else if ← isMark .backtick then do
    let quoted ← template read true
    return some (.group .taggedTemplate (← spanFrom lo) ([base] ++ types ++ [quoted]))
  else if (← isMark .assign) || (← isWord "as") || (← isWord "satisfies") then
    return some (.group .instantiation (← spanFrom lo) (base :: types))
  else return none

/-- Stops at `super` where it has no meaning. -/
def checkSuper (base : Node) (chained callAllowed : Bool) : Parser Unit := do
  if !(← context).allowSuper then fail base.span .superHere
  else if chained then fail base.span (if callAllowed then .superHere else .superCall)

/-- Passes over the marks of an optional chain: a question mark and a dot. -/
def eatChain : Parser Bool := do
  if ← isMark .question <&&> peekMark .dot then
    bump
    bump
    return true
  else return false

/-- Reads one member, call or template after `base`, if one follows; `callAllowed` says whether a call may. -/
def subscript (read : Reader) (lo : Nat) (base : Node) (callAllowed : Bool) : Parser (Node × Bool) := do
  let isSuper := match base with
    | .group .superRef _ _ => true
    | _ => false
  if (← typed) && !(← afterBreak) && (← isMark .bang) then do
    bump
    if base.isSpecialCallee then failHere (.nonNullHere (if isSuper then "super" else "import"))
    return (.group .nonNull (← spanFrom lo) [base], true)
  else do
    let angled ← if (← typed) && !base.isSpecialCallee && ((← isMark .lt) || (← isMark .shl)) then
        typedSubscript? read lo base callAllowed
      else pure none
    match angled with
    | some node => return (node, true)
    | none => do
      let chained ← eatChain
      let types ← if chained && (← typed) && ((← isMark .lt) || (← isMark .shl)) then typeArguments read
        else pure []
      if ← eat .bracketOpen then do
        let index ← inContext ({ · with allowIn := true, colonFollows := false }) (read .expression)
        expect .bracketClose
        let span ← spanFrom lo
        if isSuper then do
          checkSuper base chained callAllowed
          return (.group .superMember span [base, index], true)
        else return (.group (.index (chained || base.continuesChain)) span [base, index], true)
      else if (← isMark .parenOpen) && (chained || callAllowed) then do
        let arguments ← arguments read
        if chained && base.isSpecialCallee then failHere .superCall
        return (callNode (← spanFrom lo) chained base arguments types, true)
      else if ← pure chained <||> eat .dot then do
        let name ← memberName
        let span ← spanFrom lo
        if isSuper then do
          checkSuper base chained callAllowed
          if name.isRight then failHere .superCall
          return (.group .superMember span [base], true)
        else return (memberNode span chained base name, true)
      else if base.isSpecialCallee then
        if !isSuper then failHere .importHereExpression
        else if callAllowed then failHere .superHere
        else failHere .superCall
      else if ← isMark .backtick then do
        let quoted ← template read true
        let span ← spanFrom lo
        if base.isChained then report span .chainInTemplate
        return (.group .taggedTemplate span [base, quoted], true)
      else return (base, false)

/-- Reads the members, calls and templates after `base`, which starts at `lo`. -/
def subscripts (read : Reader) (lo : Nat) (base : Node) (callAllowed : Bool) : Parser Node :=
  repeatStep base fun base => subscript read lo base callAllowed

/-- Reads what starts with the word `import`, which was passed over: a call or the data of the module. -/
def importExpression (read : Reader) (span : Span) (callAllowed : Bool) : Parser Node := do
  if ← eat .dot then
    let id ← anyName
    if id.name == "meta" then subscripts read span.lo (.group .metaProperty (← spanFrom span.lo) []) callAllowed
    else if id.name == "defer" || id.name == "source" then
      subscripts read span.lo (.group .importRef (← spanFrom span.lo) []) callAllowed
    else unexpected "meta"
  else subscripts read span.lo (.group .importRef span []) callAllowed

/-- Reads what starts with the word `new`, which was passed over; arguments may be left out if
`newAllowed`. -/
def newExpression (read : Reader) (lo : Nat) (newAllowed : Bool) : Parser Node := do
  if ← eat .dot then
    if ← eatWord "target" then do
      let span ← spanFrom lo
      let c ← context
      if !c.inPlainFunction && !c.inParameters && !c.inClass then report span .newTarget
      subscripts read lo (.group .metaProperty span []) false
    else unexpected "target"
  else do
    let callee ← read (.memberOrNew newAllowed)
    if callee.isArrow then return callee
    else do
      if newAllowed && callee.isChained then fail callee.span .chainInNew
      let types ← if (← typed) && ((← isMark .lt) || (← isMark .shl)) then attempt do
          let types ← typeArguments read
          if ← isMark .parenOpen then return some types else return none
        else pure none
      if !newAllowed || (← isMark .parenOpen) then do
        let arguments ← arguments read
        subscripts read lo (.group (.new true) (← spanFrom lo) ([callee] ++ arguments ++ types.getD [])) false
      else return .group (.new false) (← spanFrom lo) ([callee] ++ types.getD [])

/-- Reads an expression without calls; one that starts with `new` may leave out its arguments if
`newAllowed`. -/
def memberOrNew (read : Reader) (newAllowed : Bool) : Parser Node := do
  let s ← get
  match s.token with
  | .word "new" => do
    bump
    newExpression read s.span.lo newAllowed
  | .word "super" => do
    bump
    subscripts read s.span.lo (.group .superRef s.span []) false
  | .word "import" => do
    bump
    importExpression read s.span false
  | _ => do
    let base ← primary read
    if base.isArrow then return base
    else do
      let types ← if (← typed) && (← isMark .lt) then instantiation? read else pure none
      let base ← match types with
        | some types => do pure (Node.group .instantiation (← spanFrom s.span.lo) (base :: types))
        | none => pure base
      subscripts read s.span.lo base false

/-- Reads an expression that may be called or assigned to. -/
def leftHand (read : Reader) : Parser Node := do
  let s ← get
  match s.token with
  | .word "super" => do
    bump
    subscripts read s.span.lo (.group .superRef s.span []) true
  | .word "import" => do
    bump
    importExpression read s.span true
  | _ => do
    let callee ← read (.memberOrNew true)
    if callee.isArrow then return callee
    else do
      let types ← if (← typed) && ((← isMark .lt) || (← isMark .shl)) then attempt do
          let types ← typeArguments read
          if ← isMark .parenOpen then return some types else return none
        else pure none
      match callee with
      | .group (.new false) _ _ => do
        if types.isSome then expect .parenOpen
        return callee
      | _ =>
        if ← isMark .parenOpen then do
          let arguments ← arguments read
          let node := callNode (← spanFrom s.span.lo) false callee arguments (types.getD [])
          subscripts read s.span.lo node true
        else do
          if types.isSome then expect .parenOpen
          return callee

/-! ## Operators -/

/-- Reads `await` with its operand. Where nothing is awaited and nothing follows, it is a name. -/
def awaitExpression (read : Reader) : Parser Node := do
  let lo ← here
  bump
  if ← isMark .star then failHere .awaitStar
  let c ← context
  let span ← spanFrom lo
  let isOver := (← atStatementEnd) || (← isMark .parenClose) || (← isMark .bracketClose) || (← isMark .comma)
  if !c.inAsync && isOver then
    report span .awaitName
    return .ident ⟨span, "await"⟩
  else do
    if !c.inAsync && c.inFunction then report span .awaitOutsideAsync
    if c.inParameters && !c.inFunction then report span .awaitParameter
    let operand ← read .unary
    return .group .await (← spanFrom lo) [operand]

/-- The place one byte before the current token, given the state at the token before it. If that is inside a
character, it is the place after that character. -/
def byteBefore (earlier : State) : Parser Nat := do
  let lo ← here
  match (earlier.rest.take (lo - earlier.span.hi)).getLast? with
  | some c => return if c.utf8Size = 1 then lo - 1 else lo
  | none => return lo - 1

/-- Reads a unary operator and its operand; a missing operand is a complaint. -/
def unaryOperator (read : Reader) (operator : Token) : Parser Node := do
  let s ← get
  let lo := s.span.lo
  bump
  let at' ← byteBefore s
  let operand ← tryCatch (read .unary) fun problem => do
    report problem.span problem.fault
    pure (.group .invalid (.point at') [])
  if operator == .word "delete" then do
    match operand with
    | .ident id => report id.span .deleteName
    | _ => pure ()
    if ← typed then
      let inner := operand.stripParens
      let isProperty := match inner with
        | .member _ _ _ _ | .group (.index _) _ _ | .group (.privateMember _) _ _ => true
        | _ => false
      if !isProperty then report inner.span .deleteOperand
  return .group .unary ⟨lo, (← get).previous.hi⟩ [operand]

/-- Whether markup starts at this angle bracket: a name follows, or the tag has none. -/
def startsMarkup : Parser Bool := do
  if (← markedUp) && (← isMark .lt) then
    let (next, _) ← peek
    return next.isWord || next == .punct .gt
  else return false

/-- Reads an expression with the unary operators around it. -/
def unary (read : Reader) : Parser Node := do
  let s ← get
  let lo := s.span.lo
  match s.token with
  | .punct .plusPlus | .punct .minusMinus => do
    bump
    let operand ← read .unary
    checkTarget operand false
    return .group .update ⟨lo, operand.span.hi⟩ [operand]
  | .word "delete" | .word "void" | .word "typeof" | .punct .plus | .punct .minus | .punct .tilde | .punct .bang =>
    unaryOperator read s.token
  | .word "await" => awaitExpression read
  | token =>
    if token == .punct .lt && s.features.types && !s.features.markup then do
      bump
      if ← eatWord "const" then do
        expectGreater
        let operand ← read .unary
        return .group .constAssertion (← spanFrom lo) [operand]
      else do
        let types ← read .type
        expectGreater
        let operand ← read .unary
        return .group .typeAssertion (← spanFrom lo) (operand :: types)
    else if ← startsMarkup then read (.element false)
    else do
      let operand ← leftHand read
      if operand.isArrow || (← afterBreak) then return operand
      else if (← isMark .plusPlus) || (← isMark .minusMinus) then do
        checkTarget operand false
        bump
        return .group .update (← spanFrom lo) [operand]
      else return operand

/-- The precedence of the binary operator that is the current token. -/
def operator? : Parser (Option (Punct × Nat)) := do
  let s ← get
  match s.token with
  | .word "in" => return if s.context.allowIn then some (.lt, 7) else none
  | .word "instanceof" => return some (.lt, 7)
  | .punct mark => return mark.precedence?.map fun p => (mark, p)
  | _ => return none

/-- Whether a node joins two operands by this logical operator. -/
def isLogical (operator : Punct) : Node → Bool
  | .group (.logical o) _ _ => o == operator
  | _ => false

/-- Complains about an operand of `??` that another logical operator joins. -/
def checkNullishOperand (node : Node) : Parser Unit := do
  if isLogical .ampAmp node || isLogical .pipePipe node then report node.span .mixedNullish

/-- Complains about a logical operator whose left operand is joined by `??`. -/
def checkMixed : Node → Parser Unit
  | .group (.logical operator) span (left :: _) =>
    if operator != .nullish && isLogical .nullish left then report span .mixedNullish else pure ()
  | _ => pure ()

/-- Reads one operator that binds more tightly than `least` and its right operand, if one follows. -/
def binaryStep (read : Reader) (left : Node) (least : Nat) : Parser (Node × Bool) := do
  let s ← get
  let typeWord := s.features.types && !s.newline
  if typeWord && least < 7 && s.token == .word "as" then do
    let isConst ← peekWord "const"
    bump
    if isConst then do
      bump
      return (.group .constAssertion (← spanFrom left.span.lo) [left], true)
    else do
      let types ← read .type
      return (.group .asType (← spanFrom left.span.lo) (left :: types), true)
  else if typeWord && s.token == .word "satisfies" then do
    bump
    let types ← read .type
    return (.group .satisfies (← spanFrom left.span.lo) (left :: types), true)
  else match ← operator? with
    | none => return (left, false)
    | some (operator, precedence) =>
      if precedence ≤ least then return (left, false)
      else do
        bump
        let isUnary := match left with
          | .group .unary _ _ => true
          | .group .await _ _ => true
          | _ => false
        if operator == .power && isUnary then failHere .unaryPower
        let operand ← read .unary
        let right ← read (.binaryRest operand (if operator == .power then precedence - 1 else precedence))
        if operator == .nullish then do
          checkNullishOperand left
          checkNullishOperand right
        let form := if [Punct.ampAmp, .pipePipe, .nullish].contains operator then Form.logical operator else .binary
        return (.group form ⟨left.span.lo, right.span.hi⟩ [left, right], true)

/-- Reads the operators that bind more tightly than `least` after `left`, and their operands. -/
def binaryRest (read : Reader) (left : Node) (least : Nat) : Parser Node :=
  repeatStep left fun left => do
    let (node, more) ← binaryStep read left least
    checkMixed node
    return (node, more)

/-! ## Assignments -/

def yieldExpression (read : Reader) : Parser Node := do
  let s ← get
  bump
  if s.context.inParameters && !s.context.inFunction then fail s.span .yieldParameter
  if ← eat .star then
    let operand ← read .assignment
    return .group .yield (← spanFrom s.span.lo) [operand]
  else if (← atStatementEnd) || !(← atExpressionStart) then return .group .yield (← spanFrom s.span.lo) []
  else do
    let operand ← read .assignment
    return .group .yield (← spanFrom s.span.lo) [operand]

/-- Reads an assignment, without looking for type parameters before an arrow function. -/
def assignmentBase (read : Reader) : Parser Node := do
  checkScanned
  let s ← get
  if s.context.inGenerator && s.token == .word "yield" then yieldExpression read
  else do
    let startsArrow := match s.token with
      | .punct .parenOpen => true
      | .word w => !keywords.contains w
      | .plainName _ => true
      | _ => false
    modify fun s => { s with arrowStart := if startsArrow then some s.span.lo else none }
    let left ← conditional read
    match left with
    | .arrow _ _ => return left
    | .group form _ _ =>
      match form with
      | .conditional | .binary | .logical _ | .unary | .update => return left
      | _ => finishAssignment read s.span.lo left
    | _ => finishAssignment read s.span.lo left

/-- Reads an assignment, or what may stand in its place. -/
def assignment (read : Reader) : Parser Node := do
  let lo ← here
  let generic ← if (← typed) && (← isMark .lt) then
      match (← peek).1 with
      | .word _ | .plainName _ => attempt do
        let types ← typeParameters read .function
        match ← read .assignmentBase with
        | .arrow head parts => return some (.arrow { head with span := ⟨lo, head.span.hi⟩ } (parts ++ types))
        | _ => return none
      | _ => pure none
    else pure none
  match generic with
  | some node => return node
  | none => assignmentBase read

/-- Reads expressions with commas between. -/
def expression (read : Reader) : Parser Node := do
  let first ← read .assignment
  if ← isMark .comma then do
    let rest ← repeatStep [] fun rest => do
      if ← eat .comma then
        let next ← read .assignment
        return (next :: rest, true)
      else return (rest, false)
    let last := rest.head?.getD first
    return .group .sequence ⟨first.span.lo, last.span.hi⟩ (first :: rest.reverse)
  else return first

end Parser

end NameCheck.Syntax
