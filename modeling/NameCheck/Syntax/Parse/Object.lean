import NameCheck.Syntax.Parse.Function

/-!
Object literals.
-/
namespace NameCheck.Syntax.Parser

/-- Whether a parameter is other than the declared type of `this`. -/
def isOrdinary : Node → Bool
  | .ident id => id.name != "this"
  | .group .annotated _ (.ident id :: _) => id.name != "this"
  | _ => true

/-- Reads the parameters of a getter, of which there are none; complaints stand at `span`. -/
def getterParameters (read : Reader) (span : Span) : Parser (List Node) := do
  let parameters ← parameters read
  if parameters.any isOrdinary then report span .getterParameters
  return parameters

/-- Reads the parameter of a setter; complaints about their number stand at `span`. -/
def setterParameters (read : Reader) (span : Span) : Parser (List Node) := do
  let parameters ← parameters read
  if (parameters.filter isOrdinary).length != 1 then report span .setterParameters
  if let some (.group .rest at' _) := parameters.head? then report at' .setterRest
  return parameters

def methodContext (c : Context) : Context := { c with allowSuper := true, inField := false }

/-- Reads the rest of a method after its key. -/
def methodRest (read : Reader) (lo : Nat) (isAsync isGenerator : Bool) (key : Key) (keyParts : List Node) :
    Parser Node := do
  let rest ← inContext methodContext (functionRest read isAsync isGenerator (parameters read))
  return .method .method ⟨← spanFrom lo, isAsync⟩ key keyParts rest.parts

/-- Reads the rest of a property that starts with `get`, `set` or `async`, which was its first word. A setter has
room for the type of `this` and one parameter. -/
def accessorOrAsync (read : Reader) (lo : Nat) (word : String) : Parser Node := do
  let isGenerator ← if word == "async" then eat .star else pure false
  let (key, keyParts) ← propertyKey read
  if word == "async" then methodRest read lo true isGenerator key keyParts
  else if word == "get" then do
    let rest ← inContext methodContext (functionRest read false false (getterParameters read key.span))
    return .method .getter ⟨← spanFrom lo, false⟩ key keyParts (rest.result ++ rest.body.getD [])
  else do
    let rest ← inContext methodContext (functionRest read false false (setterParameters read key.span))
    if rest.parameters.isEmpty then report key.span .setterParameters
    return .method .setter ⟨← spanFrom lo, false⟩ key keyParts (rest.parameters.take 2 ++ rest.body.getD [])

/-- Whether a property may go on with this token once its key is read, where types are read. -/
def continuesProperty (key : Key) : Token → Bool
  | .word _ | .plainName _ | .text _ | .number _ | .bigint _ => true
  | .punct mark =>
    [Punct.parenOpen, .bracketOpen, .colon, .comma, .question, .assign, .star, .lt].contains mark ||
      (mark == .braceClose && (match key with
        | .name _ => true
        | _ => false))
  | _ => false

def objectProperty (read : Reader) : Parser Node := do
  let lo ← here
  if ← eat .ellipsis then
    let inner ← inContext ({ · with allowIn := true }) (read .assignment)
    return .spread (← spanFrom lo) inner
  else if ← eat .star then
    let (key, keyParts) ← propertyKey read
    methodRest read lo false true key keyParts
  else do
    let modified ← eatModifier
    let modifierSpan := (← get).previous
    let (key, keyParts) ← propertyKey read
    let token := (← get).token
    if (← typed) && !continuesProperty key token then do
      report (← get).span .semicolonExpected
      let span ← spanFrom lo
      return .keyValue span key keyParts (.group .invalid span [])
    else if ← eat .colon then
      let value ← inContext ({ · with allowIn := true }) (read .assignment)
      return .keyValue (← spanFrom lo) key keyParts value
    else if (← isMark .parenOpen) || ((← typed) && (← isMark .lt)) then
      methodRest read lo false false key keyParts
    else match key with
      | .name id => do
        if ← eat .question then report (← get).previous .optionalProperty
        if (← isMark .assign) || (← isMark .comma) || (← isMark .braceClose) then do
          if ← eat .assign then
            let value ← inContext ({ · with allowIn := true }) (read .assignment)
            return .group .defaultedProperty (← spanFrom lo) [.ident id, value]
          else return .ident id
        else if id.name == "get" || id.name == "set" || id.name == "async" then do
          if modified then report modifierSpan .modifierHere
          accessorOrAsync read lo id.name
        else if ← typed then
          unexpected "... , *,  (, [, :, , ?, =, an identifier, public, protected, private, readonly, <."
        else unexpected "... , *,  (, [, :, , ?, = or an identifier"
      | _ => unexpected "identifier"

/-- Reads the properties of the object literal that starts at `lo`, and passes over its closing brace. -/
def objectProperties (read : Reader) (lo : Nat) : Parser (List Node) :=
  inContext ({ · with colonFollows := false }) do
    let parts ← repeatStep [] fun parts => do
      if ← eat .braceClose then return (parts, false)
      else do
        let property ← objectProperty read
        if !(← isMark .braceClose) then
          expect .comma
          if ← isMark .braceClose then
            modify fun s => { s with trailingCommas := (lo, s.previous) :: s.trailingCommas }
        return (property :: parts, true)
    return parts.reverse

/-- Reads an object literal, from its brace on. -/
def objectLiteral (read : Reader) : Parser Node := do
  let lo ← here
  expect .braceOpen
  let properties ← objectProperties read lo
  return .group .object (← spanFrom lo) properties

end NameCheck.Syntax.Parser
