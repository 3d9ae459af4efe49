import NameCheck.Syntax.Parse.Name

/-!
Patterns: those that a declaration binds, the parameters of functions, and expressions that turn out to be
patterns once an assignment or an arrow follows them.
-/
namespace NameCheck.Syntax

/-- Whether no member of nested members is chained. -/
def isUnchained : Node → Bool
  | .member _ chained object _ => !chained && isUnchained object
  | .group (.index chained) _ (object :: _) => !chained && isUnchained object
  | .group (.privateMember chained) _ (object :: _) => !chained && isUnchained object
  | _ => true

/-- Whether an expression may stand on the left of any assignment operator. -/
def isSimpleTarget : Node → Bool
  | .ident id => id.name != "eval" && id.name != "arguments"
  | .paren _ inner => isSimpleTarget inner
  | .member _ chained object _ => !chained && isUnchained object
  | .group (.index chained) _ (object :: _) => !chained && isUnchained object
  | .group (.privateMember chained) _ (object :: _) => !chained && isUnchained object
  | .group .superMember _ _ => true
  | .group .nonNull _ (inner :: _) => isSimpleTarget inner
  | .group .asType _ (inner :: _) => isSimpleTarget inner
  | .group .satisfies _ (inner :: _) => isSimpleTarget inner
  | .group .typeAssertion _ (inner :: _) => isSimpleTarget inner
  | .group .instantiation _ (inner :: _) => isSimpleTarget inner
  | _ => false

/-- Whether an expression is of a form that can be assigned to, whatever it contains. -/
def isAssignable : Node → Bool
  | .ident _ | .paren _ _ | .member _ _ _ _ | .optCall _ _ _ _ => true
  | .group form _ _ =>
    match form with
    | .index _ | .privateMember _ | .superMember | .nonNull | .asType | .satisfies | .typeAssertion
    | .instantiation | .arrayPattern | .objectPattern | .invalid => true
    | _ => false
  | _ => false

namespace Parser

/-! ## Binding patterns -/

/-- Reads a type annotation if one stands here; none if there is none. -/
def annotation? (read : Reader) : Parser (Option (List Node)) := do
  if (← typed) && (← isMark .colon) then
    bump
    return some (← read .type)
  else return none

/-- A name together with the expressions in its type. -/
def annotatedName (id : Ident) (types : List Node) : Node :=
  if types.isEmpty then .ident id else .group .annotated id.span (.ident id :: types)

/-- A pattern whose type annotation ends at `hi`. -/
def annotatedPattern (node : Node) (hi : Nat) (types : List Node) : Node :=
  match node with
  | .ident id => annotatedName id types
  | .group form span parts =>
    let annotation := if types.isEmpty then [] else [.group .types span types]
    .group form ⟨span.lo, hi⟩ (parts ++ annotation)
  | node => node

/-- Reads a pattern and the default value that may follow it. -/
def bindingElement (read : Reader) : Parser Node := do
  let lo ← here
  let target ← read .pattern
  if ← eat .assign then
    let value ← inContext ({ · with allowIn := true }) (read .assignment)
    if (← context).ambient then report (← spanFrom lo) .initialiserInAmbient
    return .patternDefault (← spanFrom lo) target value
  else return target

/-- The span of a rest element, if the node is one. -/
def restSpan? : Node → Option Span
  | .group .rest span _ => some span
  | _ => none

/-- Reads the rest of an array pattern after its bracket. Every element after a rest element is a complaint about
the last of those. -/
def arrayPattern (read : Reader) (lo : Nat) : Parser Node := do
  let parts ← repeatStep [] fun parts => do
    if (← atEnd) || (← isMark .bracketClose) then return (parts, false)
    else if ← isMark .comma then
      let span := (← get).span
      bump
      return (Node.group .hole span [] :: parts, true)
    else do
      if let some span := parts.findSome? restSpan? then report span .restElementNotLast
      let start ← here
      let isRest ← eat .ellipsis
      let element ← if isRest then do
          let target ← read .pattern
          pure (Node.group .rest (← spanFrom start) [target])
        else bindingElement read
      if !(← isMark .bracketClose) then
        expect .comma
        if isRest && (← isMark .bracketClose) then report (← get).previous .commaAfterRest
      return (element :: parts, true)
  expect .bracketClose
  return .group .arrayPattern (← spanFrom lo) parts.reverse

/-- Reads one property of an object pattern. -/
def patternProperty (read : Reader) : Parser Node := do
  let lo ← here
  if ← eat .ellipsis then
    let target ← read .pattern
    return .group .rest (← spanFrom lo) [target]
  else
    let (key, keyParts) ← propertyKey read
    if ← eat .colon then
      let value ← bindingElement read
      return .group .keyedPattern (← spanFrom lo) (keyParts ++ [value])
    else match key with
      | .name id => do
        let value ← if ← eat .assign then
            some <$> inContext ({ · with allowIn := true }) (read .assignment)
          else pure none
        return .patternShorthand (← spanFrom lo) id value
      | _ => unexpected "an identifier"

/-- Complains about rest elements in an object pattern, whose properties come in reverse: one has to be last, to bind
a name and to have no comma behind it. -/
def checkRestProperties (trailing : Option Span) : List Node → Parser Unit
  | [] => pure ()
  | last :: before => do
    for property in before.reverse do
      if let some span := restSpan? property then report span .restElementNotLast
    match last with
    | .group .rest _ [.ident _] => if let some comma := trailing then report comma .commaAfterRest
    | .group .rest span _ => fail span .restWithoutName
    | _ => pure ()

/-- Reads the rest of an object pattern after its brace. -/
def objectPattern (read : Reader) (lo : Nat) : Parser Node := do
  let (parts, trailing) ← repeatStep (([] : List Node), (none : Option Span)) fun (parts, trailing) => do
    if ← eat .braceClose then return ((parts, trailing), false)
    else do
      let property ← patternProperty read
      if ← isMark .braceClose then return ((property :: parts, none), true)
      else do
        expect .comma
        let comma := (← get).previous
        return ((property :: parts, if ← isMark .braceClose then some comma else none), true)
  checkRestProperties trailing parts
  return .group .objectPattern (← spanFrom lo) parts.reverse

/-- Reads a name or a pattern that a declaration binds. -/
def bindingPattern (read : Reader) : Parser Node := do
  checkScanned
  let lo ← here
  match (← get).token with
  | .word _ | .plainName _ => return .ident (← bindingName)
  | .punct .bracketOpen => do
    bump
    arrayPattern read lo
  | .punct .braceOpen => do
    bump
    objectPattern read lo
  | _ => unexpected "yield, an identifier, [ or \x7b"

/-! ## Parameters -/

def accessWords : List String := ["public", "protected", "private", "readonly"]

/-- Passes over a modifier before a name or a pattern. -/
def eatModifier : Parser Bool := do
  match (← get).token with
  | .word w =>
    if (← typed) && accessWords.contains w then
      match (← peek).1 with
      | .word _ | .plainName _ | .punct .braceOpen | .punct .bracketOpen => do
        bump
        return true
      | _ => return false
    else return false
  | _ => return false

/-- Reads one parameter with its type and default value. -/
def parameter (read : Reader) : Parser Node := do
  let lo ← here
  let modified ← eatModifier
  let pattern ← read .pattern
  let optional ← if ← typed then eat .question else pure false
  let pattern ← match ← annotation? read with
    | some types => do pure (annotatedPattern pattern (← get).previous.hi types)
    | none => pure pattern
  let pattern ← if ← eat .assign then do
      if optional then report pattern.span .optionalInitialised
      let value ← read .assignment
      if (← context).ambient then report (← spanFrom lo) .initialiserInAmbient
      pure (Node.patternDefault (← spanFrom lo) pattern value)
    else pure pattern
  if modified then report (← spanFrom lo) .parameterProperty
  return pattern

/-- Reads a rest parameter after its dots. -/
def restParameter (read : Reader) (lo : Nat) : Parser Node := do
  let pattern ← read .pattern
  let pattern ← if ← eat .assign then do
      let value ← read .assignment
      report pattern.span .restInitialised
      pure (Node.patternDefault (← spanFrom lo) pattern value)
    else pure pattern
  let types := (← annotation? read).getD []
  let span ← spanFrom lo
  if ← typed <&&> eat .question then report (← get).previous .restOptional
  return .group .rest span (pattern :: types)

/-- Reads a rest parameter of a constructor after its dots. -/
def plainRestParameter (read : Reader) (lo : Nat) : Parser Node := do
  let pattern ← read .pattern
  let types := (← annotation? read).getD []
  return .group .rest (← spanFrom lo) (pattern :: types)

/-- Reads parameters, up to their closing parenthesis, where `rest` reads a rest parameter that starts at an
offset, and `one` any other and gives with it where the property that it declares stands. -/
def parametersBy (rest : Nat → Parser Node) (one : Parser (Node × Option Span)) :
    Parser (List (Node × Option Span)) := do
  let (parts, _) ← repeatStep (([] : List (Node × Option Span)), (none : Option Span)) fun (parts, restAt) => do
    if (← atEnd) || (← isMark .parenClose) then return ((parts, restAt), false)
    else do
      if let some span := restAt then report span .restNotLast
      let lo ← here
      let isRest ← eat .ellipsis
      let part ← if isRest then do pure (← rest lo, none) else one
      if !(← isMark .parenClose) then
        expect .comma
        if isRest && (← isMark .parenClose) then report (← get).previous .commaAfterRest
      return ((part :: parts, if isRest then some part.1.span else restAt), true)
  return parts.reverse

/-- Reads the parameters of a function, up to their closing parenthesis. -/
def parameters (read : Reader) : Parser (List Node) := do
  let found ← parametersBy (restParameter read) do
    return (← parameter read, none)
  return found.map (·.1)

/-! ## Expressions read as patterns -/

/-- What an expression becomes a pattern for. -/
inductive PatternUse where
  | assignment
  | assignmentElement
  | binding
  | bindingElement
deriving DecidableEq, Repr

/-- The use of the elements of a pattern. -/
def PatternUse.element : PatternUse → PatternUse
  | .assignment | .assignmentElement => .assignmentElement
  | .binding | .bindingElement => .bindingElement

mutual

/-- The names that a pattern binds, in order. -/
def boundNames : Node → List Ident
  | .ident id | .patternShorthand _ id _ => [id]
  | .patternDefault _ target _ => boundNames target
  | .group form _ parts =>
    match form with
    | .annotated | .rest => firstNames parts
    | .keyedPattern => lastNames parts
    | .arrayPattern | .objectPattern => allNames parts
    | _ => []
  | _ => []

def firstNames : List Node → List Ident
  | [] => []
  | node :: _ => boundNames node

def lastNames : List Node → List Ident
  | [] => []
  | [node] => boundNames node
  | _ :: rest => lastNames rest

def allNames : List Node → List Ident
  | [] => []
  | node :: rest => boundNames node ++ allNames rest

end

/-- Complains about names in a pattern that strict code does not bind. -/
def checkBound (pattern : Node) : Parser Unit := do
  for id in boundNames pattern do
    if id.name == "eval" || id.name == "arguments" then report id.span .strictBinding

/-- Whether an expression is one of the two names that strict code does not bind. -/
def isRestrictedName : Node → Bool
  | .ident id => id.name == "eval" || id.name == "arguments"
  | _ => false

/-- Whether an expression that cannot be assigned to is complained about where types are read: literals and
operations are not, and calls only if `denyCall`. -/
def deniesTarget (denyCall : Bool) : Node → Bool
  | .group .literal _ _ | .group (.text _) _ _ | .group .binary _ _ | .group (.logical _) _ _ => false
  | .call _ _ _ _ => denyCall
  | .paren _ inner => deniesTarget denyCall inner
  | _ => true

def checkTarget (node : Node) (denyCall : Bool) : Parser Unit := do
  if !(← typed) then
    if !isSimpleTarget node then report node.span .assignmentTarget
  else if isRestrictedName node then report node.span .restrictedUse
  else if !isSimpleTarget node && deniesTarget denyCall node then report node.span .assignmentTarget

/-- Complains about the target of an assignment that changes a value. -/
def checkChanged (node : Node) : Parser Unit := do
  if !isSimpleTarget node then
    report node.span (if ← typed then .assignmentTarget else .notSimpleTarget)
  if ← typed then
    if isRestrictedName node then report node.span .restrictedUse

/-- An expression that cannot be a pattern. -/
def notAPattern (span : Span) : Parser Node := do
  report span .notAPattern
  return .group .invalid span []

/-- The comma that closed the literal that starts at an offset, if one did. -/
def trailingComma? (lo : Nat) : Parser (Option Span) := do
  return ((← get).trailingCommas.find? (·.1 == lo)).map (·.2)

/-- Complains about the comma that closed the literal that starts at an offset. -/
def reportTrailingComma (lo : Nat) : Parser Unit := do
  if let some span ← trailingComma? lo then report span .commaAfterRest

/-- An expression that can only be the target of an element of a pattern. -/
def elementTarget (node : Node) : Parser Node := do
  if !isSimpleTarget node then report node.span .notSimpleTarget
  return node

/-- Whether an element of an assignment pattern may have this form. -/
def isElementTarget : Node → Bool
  | .member _ chained _ _ => !chained
  | .call _ _ _ _ | .ident _ | .fnExpr _ _ _ | .paren _ _ => true
  | .group form _ _ =>
    match form with
    | .index chained | .privateMember chained => !chained
    | .superMember | .new _ | .literal | .text _ | .classBody | .template | .asType => true
    | _ => false
  | _ => false

mutual

def toPattern (use : PatternUse) : Node → Parser Node
  | .group .array span parts => do
    return .group .arrayPattern span (← toElements use.element span.lo parts)
  | .group .object span parts => do
    return .group .objectPattern span (← toProperties use.element span.lo parts)
  | .assign span operator target value =>
    if use == .assignment then do
      checkTarget (.assign span operator target value) true
      return .assign span operator target value
    else if operator == .assign then do
      return .patternDefault span (← toPattern use target) value
    else notAPattern span
  | .group .arrayPattern span parts => return .group .arrayPattern span parts
  | .group .objectPattern span parts => return .group .objectPattern span parts
  | .ident id =>
    if use == .assignment then do
      checkTarget (.ident id) true
      return .ident id
    else if use == .assignmentElement then elementTarget (.ident id)
    else return .ident id
  | node =>
    match use with
    | .assignment => do
      checkTarget node true
      return node
    | .assignmentElement =>
      if isElementTarget node then elementTarget node
      else do
        report node.span .notAPattern
        notAPattern node.span
    | _ => notAPattern node.span

/-- Reads the elements of an array as patterns. Only the last may be spread, and holes at the end are
dropped. -/
def toElements (use : PatternUse) (lo : Nat) : List Node → Parser (List Node)
  | [] => return []
  | .spread span inner :: rest => do
    if rest.isEmpty then
      match inner with
      | .assign _ _ _ _ => report span .restInitialised
      | _ => pure ()
      reportTrailingComma lo
      return [.group .rest inner.span [← toPattern use inner]]
    else do
      report span .restElementNotLast
      toElements use lo rest
  | .group .hole span parts :: rest => do
    let rest ← toElements use lo rest
    return if rest.isEmpty then [] else .group .hole span parts :: rest
  | node :: rest => do
    let pattern ← toPattern use node
    return pattern :: (← toElements use lo rest)

def toProperties (use : PatternUse) (lo : Nat) : List Node → Parser (List Node)
  | [] => return []
  | .ident id :: rest => return .patternShorthand id.span id none :: (← toProperties use lo rest)
  | .keyValue span _ keyParts value :: rest => do
    let pattern ← toPattern use value
    return .group .keyedPattern span (keyParts ++ [pattern]) :: (← toProperties use lo rest)
  | .group .defaultedProperty span (.ident id :: value :: _) :: rest =>
    return .patternShorthand span id (some value) :: (← toProperties use lo rest)
  | .spread span inner :: rest => do
    if rest.isEmpty then reportTrailingComma lo else report span .restElementNotLast
    let target ← if use == .bindingElement then
        match inner with
        | .ident id => pure (Node.ident id)
        | _ => do
          report span .restWithoutName
          pure (.group .invalid span [])
      else toPattern use inner
    match target with
    | .patternDefault _ _ _ => report span .restInitialised
    | _ => pure ()
    return .group .rest span [target] :: (← toProperties use lo rest)
  | node :: _ => fail node.span .notAPattern

end

end Parser

end NameCheck.Syntax
