import NameCheck.Syntax.Parse.Object

/-!
Classes and their members.
-/
namespace NameCheck.Syntax.Parser

/-- What was read of a member of a class before its key. -/
structure Modifiers where
  lo : Nat
  declare : Option Span := none
  access : Bool := false
  staticWord : Option Span := none
  isStatic : Bool := false
  isAbstract : Bool := false
  isOverride : Bool := false
  readonly : Option Span := none
  last : Option Span := none
  accessor : Bool := false
deriving Inhabited

/-- A member of a class and whether it is a constructor with a body. -/
abbrev ClassMember := Node × Bool

/-- Whether the key before this token is that of a method. -/
def atMethod : Parser Bool := do
  return (← isMark .parenOpen) || ((← typed) && (← isMark .lt))

/-- Whether the key before this token is that of a field; a field may also end with its line if `lines`. -/
def atField (lines : Bool) : Parser Bool := do
  if (← typed) && ((← isMark .bang) || (← isMark .colon)) then return true
  else if (← isMark .assign) || (← isMark .braceClose) || (← isMark .semicolon) then return true
  else if lines then atStatementEnd
  else return false

/-- Complains about an abstract member of a class that is not abstract. -/
def checkAbstract (m : Modifiers) (span : Span) (fault : Fault) : Parser Unit := do
  if m.isAbstract && !(← context).abstractClass then report span fault

/-- Reads the rest of a method of a class after its key. -/
def classMethod (read : Reader) (m : Modifiers) (isAsync isGenerator isHidden : Bool) (keyParts : List Node)
    (parameters : Parser (List Node)) : Parser ClassMember := do
  let rest ← inContext methodContext (functionRest read isAsync isGenerator parameters)
  let span ← spanFrom m.lo
  checkAbstract m span .abstractMethod
  if isHidden then
    if m.access then report span .hiddenAccess
  else if m.isAbstract && rest.body.isSome then report span .abstractBody
  return (.classMethod ⟨span, isAsync⟩ keyParts rest.parts, false)

/-- Reads the rest of a field after its key. -/
def classField (read : Reader) (m : Modifiers) (key : Key) (keyParts : List Node) (optional : Bool) :
    Parser ClassMember := do
  if isConstructorKey key then fail key.span .fieldConstructor
  if key.isHidden then
    if m.declare.isSome then report key.span (.hiddenModifier "declare")
    if m.isAbstract then report key.span (.hiddenModifier "abstract")
  let _ ← if (← typed) && !optional then eat .bang else pure false
  let types := (← annotation? read).getD []
  let value ← inContext ({ · with allowIn := true, inField := true, colonFollows := false }) do
    let value ← if ← eat .assign then some <$> read .assignment else pure none
    if !(← eatSemicolon) then report (← get).span .semicolonExpected
    pure value
  let span ← spanFrom m.lo
  checkAbstract m span .abstractProperty
  if m.accessor then return (.group .statement span (keyParts ++ value.toList ++ types), false)
  else do
    if key.isHidden then
      if m.access then report span .hiddenAccess
    else if m.isAbstract && value.isSome then report span .abstractInitialiser
    return (.field span keyParts value types, false)

/-- Passes over a word of accessibility. -/
def accessModifier : Parser Bool := do
  if !(← typed) then return false
  else match ← modifier? ["public", "protected", "private", "in", "out"] with
    | some word =>
      if word == "in" || word == "out" then do
        report (← get).previous (.varianceHere word)
        return false
      else return true
    | none => return false

/-- Passes over a modifier where types are read. -/
def eatTypeModifier (word : String) : Parser Bool := do
  if ← typed then return (← modifier? [word]).isSome else return false

/-- Reads one parameter of a constructor, and gives with it where the property that it declares stands. -/
def constructorParameter (read : Reader) : Parser (Node × Option Span) := do
  let lo ← here
  let access ← accessModifier
  let overrides ← eatTypeModifier "override"
  let readonly ← eatTypeModifier "readonly"
  let node ← parameter read
  if access || overrides || readonly then
    match node with
    | .ident _ | .group .annotated _ (.ident _ :: _) | .patternDefault _ _ _ =>
      return (node, some (← spanFrom lo))
    | node => fail node.span .propertyPattern
  else return (node, none)

/-- Complains about type parameters of a constructor, which it passes over. -/
def constructorTypes (read : Reader) : Parser Unit := do
  let lo ← here
  if (← typed) && (← isMark .lt) then
    if ← peekMark .gt then
      bump
      let close ← here
      bump
      report (← spanFrom lo) .emptyParameterList
      report (← spanFrom close) .constructorTypes
    else do
      expectLess
      let found ← commaList atGreater do
        let lo ← here
        let _ ← typeParameter read .function
        return [← spanFrom lo]
      expectGreater
      for span in found do report span .constructorTypes

/-- Complains about the type that a constructor is said to give, which it passes over. -/
def constructorResult (read : Reader) : Parser Unit := do
  if (← typed) && (← isMark .colon) then
    bump
    let lo ← here
    let _ ← read .type
    report (← spanFrom lo) .constructorResult

/-- Reads the rest of a constructor after its key. -/
def constructorRest (read : Reader) (m : Modifiers) : Parser ClassMember := do
  if (← typed) && m.isOverride then report (← spanFrom m.lo) (.constructorModifier "override")
  constructorTypes read
  expect .parenOpen
  let parameters ← inContext (parameterContext false false)
    (parametersBy (plainRestParameter read) (constructorParameter read))
  expect .parenClose
  constructorResult read
  let body ← inContext methodContext (optionalBody read false false (parameters.map (·.1)))
  if body.isNone then
    for (_, property) in parameters do
      if let some span := property then report span .parameterProperty
    for (parameter, _) in parameters do
      if let .patternDefault span _ _ := parameter then report span .initialiserInAmbient
  if let some span := m.staticWord then report span (.constructorModifier "static")
  if m.isAbstract then
    if let some span := m.last then report span .abstractHere
  let parameters := parameters.map (·.1)
  let rest : FunctionRest := ⟨[], parameters, [], body⟩
  return (.constructor ⟨← spanFrom m.lo, false⟩ rest.parts, body.isSome)

/-- Reads a member that its first words, already passed over, turn out to name: a method or a field with
that name. -/
def memberNamed? (read : Reader) (m : Modifiers) (id : Ident) (lines : Bool) : Parser (Option ClassMember) := do
  if ← atMethod then some <$> classMethod read m false false false [] (parameters read)
  else if (← atField lines) || ((← typed) && (← isMark .question)) then do
    let optional ← if ← typed then eat .question else pure false
    some <$> classField read m (.name id) [] optional
  else return none

/-- Reads a member of a class from its key on. -/
def memberFromKey (read : Reader) (m : Modifiers) : Parser ClassMember := do
  if ← eat .star then
    let (key, keyParts) ← classKey read
    if m.readonly.isSome then report (← spanFrom m.lo) .readonlyMethod
    if isConstructorKey key then report (← spanFrom m.lo) .generatorConstructor
    classMethod read m false true key.isHidden keyParts (parameters read)
  else do
    let (key, keyParts) ← match m.readonly with
      | some span =>
        if (← isMark .bang) || (← isMark .colon) then pure (Key.name ⟨span, "readonly"⟩, [])
        else classKey read
      | none => classKey read
    let optional ← if ← typed then eat .question else pure false
    if ← atMethod then do
      if let some span := m.declare then report span .declareOnMethod
      if m.readonly.isSome then fail (← spanFrom m.lo) .readonlyMethod
      if isConstructorKey key then constructorRest read m
      else classMethod read m false false key.isHidden keyParts (parameters read)
    else do
      let word := match key with
        | .name id => id.name
        | _ => ""
      let nextLineGenerator ← do pure ((← afterBreak) && (← isMark .star))
      let isAccessor ← if word == "get" || word == "set" then do
          pure (!(← atField false) && !nextLineGenerator)
        else pure false
      if !isAccessor && (← atField true) then classField read m key keyParts optional
      else if word == "async" && !(← afterBreak) then do
        if ← eatTypeModifier "override" then report (← get).previous (.lateModifier "override" "async")
        let isGenerator ← eat .star
        let (inner, innerParts) ← classKey read
        if isConstructorKey inner then fail inner.span .asyncConstructor
        if m.readonly.isSome then fail (← spanFrom m.lo) .readonlyMethod
        let _ ← if ← typed then eat .question else pure false
        classMethod read m true isGenerator inner.isHidden innerParts (parameters read)
      else if isAccessor then do
        let (inner, innerParts) ← classKey read
        if m.readonly.isSome then report key.span .readonlyAccessor
        if isConstructorKey inner then report key.span .accessorConstructor
        let parameters := if word == "get" then getterParameters read key.span else setterParameters read key.span
        classMethod read m false false inner.isHidden innerParts parameters
      else unexpected "* for generator, private key, identifier or async"

/-- What is wrong with a modifier after those that were read. -/
def modifierFault (m : Modifiers) (word : String) : Parser (Option Fault) := do
  match word with
  | "abstract" =>
    return if m.isAbstract then some (.repeatedModifier word)
      else if m.isOverride then some (.lateModifier word "override")
      else none
  | "override" =>
    if m.isOverride then return some (.repeatedModifier word)
    else if m.readonly.isSome then return some (.lateModifier word "readonly")
    else if m.declare.isSome then return some (.conflictingModifiers word "declare")
    else return if (← context).derivedClass then none else some .needlessOverride
  | "readonly" => return if m.readonly.isSome then some (.repeatedModifier word) else none
  | _ => return if m.isOverride then some (.lateModifier word "override") else none

/-- Reads the modifiers that types add to the members of a class, up to a static block. -/
def typeModifiers (m : Modifiers) : Parser Modifiers := do
  if !(← typed) then return m
  else repeatStep m fun m => do
    if ← isWord "static" <&&> peekMark .braceOpen then return (m, false)
    else match ← modifier? ["abstract", "readonly", "override", "static"] with
      | none => return (m, false)
      | some word => do
        let span := (← get).previous
        if let some fault ← modifierFault m word then report span fault
        let m := { m with last := some span }
        let m := match word with
          | "abstract" => { m with isAbstract := true }
          | "readonly" => { m with readonly := m.readonly.or (some span) }
          | "override" => { m with isOverride := true }
          | _ => { m with isStatic := true }
        return (m, true)

/-- Reads the statements of a static block, after its brace. -/
def staticBlock (read : Reader) (lo : Nat) : Parser ClassMember := do
  let parts ← inContext ({ · with inStaticBlock := true, inField := true, allowIn := true })
    (untilBrace (read (.statement true)))
  return (.group .statement (← spanFrom lo) parts, false)

/-- Reads a member of a class after `declare`, a word of accessibility, `static` and `accessor`. -/
def modifiedMember (read : Reader) (m : Modifiers) : Parser ClassMember := do
  let m ← typeModifiers m
  if m.isStatic && (← isMark .braceOpen) then do
    if let some span := m.declare then report span .modifiersHere
    if m.access then report (← get).span .modifiersHere
    bump
    staticBlock read m.lo
  else if ← isWord "static" <&&> peekMark .braceOpen then do
    if let some span := m.last then report span .modifiersHere
    if let some span := m.staticWord then report span .modifiersHere
    bump
    bump
    staticBlock read m.lo
  else do
    let index ← if (← typed) && !m.isAbstract && !m.isOverride && !m.access then indexSignature? read
      else pure none
    match index with
    | some types => return (.group .statement (← spanFrom m.lo) types, false)
    | none => memberFromKey read m

def classMember (read : Reader) : Parser ClassMember := do
  let lo ← here
  let declareFirst ← typed <&&> eatWord "declare"
  let access ← accessModifier
  let declares ← if declareFirst then pure true else typed <&&> eatWord "declare"
  let declareSpan ← spanFrom lo
  let m : Modifiers := { lo, access }
  let named ← if declares then memberNamed? read m ⟨declareSpan, "declare"⟩ true else pure none
  if let some member := named then return member
  let m := { m with declare := if declares then some declareSpan else none }
  let staticSpan := (← get).span
  let isStatic ← eatWord "static"
  let accessorSpan := (← get).span
  let accessor ← typed <&&> eatWord "accessor"
  let named ← if accessor then memberNamed? read { m with isStatic } ⟨accessorSpan, "accessor"⟩ true else pure none
  if let some member := named then return member
  let m := { m with accessor }
  let named ← if isStatic && !(← isMark .braceOpen) then memberNamed? read m ⟨staticSpan, "static"⟩ false
    else pure none
  if let some member := named then return member
  modifiedMember read { m with isStatic, staticWord := if isStatic then some staticSpan else none }

/-- Reads the members of a class, up to its closing brace. -/
def classMembers (read : Reader) : Parser (List Node) := do
  let (members, _) ← repeatStep (([] : List Node), false) fun (members, hasConstructor) => do
    if (← atEnd) || (← isMark .braceClose) then return ((members, hasConstructor), false)
    else if ← eat .semicolon then return ((members, hasConstructor), true)
    else do
      let (member, isConstructor) ← inContext ({ · with allowSuper := true }) (classMember read)
      if isConstructor && hasConstructor && !(← context).ambient then report member.span .duplicateConstructor
      return ((member :: members, hasConstructor || isConstructor), true)
  return members.reverse

/-- Names that no class and no interface may have. -/
def builtinTypes : List String := [
  "string", "null", "number", "object", "any", "unknown", "boolean", "bigint", "symbol", "void", "never",
  "intrinsic"]

/-- Reads the class that another extends, and its type arguments. -/
def baseClass (read : Reader) : Parser (Node × List Node) := do
  match ← read .leftHand with
  | .group .instantiation _ (base :: types) => return (base, types)
  | base => do
    let types ← if ← typed then typeArguments? read else pure []
    return (base, types)

/-- Reads a class from the word `class` on; its span starts at `lo`. The members come before the class it
extends, in the order in which they are visited. -/
def classFromWord (read : Reader) (lo : Nat) (isAbstract nameRequired : Bool) :
    Parser (Option Ident × Node) :=
  inContext ({ · with inClass := true, colonFollows := false }) do
    expectWord "class"
    let name ← if nameRequired then do
        refuseLet
        some <$> bindingName
      else bindingName?
    if let some id := name then
      if (← typed) && builtinTypes.contains id.name then report id.span .className
    let typeParameters ← typeParameters? read .classLike
    let base ← if ← eatWord "extends" then do
        let base ← baseClass read
        if ← typed <&&> eat .comma then
          let (spans, _) ← heritage read
          for span in spans do report span .secondBase
        pure (some base)
      else pure none
    if ← eatWord "extends" then
      report (← get).previous .secondExtends
      let _ ← baseClass read
    let interfaces ← if ← typed <&&> eatWord "implements" then do
        let (_, types) ← heritage read
        pure types
      else pure []
    if ← typed <&&> eatWord "implements" then
      report (← get).previous .secondImplements
      let _ ← heritage read
    let late ← if ← typed <&&> eatWord "extends" then do
        report (← get).previous .lateExtends
        some <$> baseClass read
      else pure none
    let base := base.or late
    expect .braceOpen
    let change (c : Context) : Context :=
      { c with abstractClass := isAbstract, derivedClass := base.isSome, inField := false }
    let members ← inContext change (classMembers read)
    if ← atEnd then report (← get).span (.expected "\x7d" "<eof>") else expect .braceClose
    let bases := base.toList.map (·.1)
    let arguments := base.toList.flatMap (·.2)
    return (name, .group .classBody (← spanFrom lo) (members ++ bases ++ typeParameters ++ arguments ++ interfaces))

end NameCheck.Syntax.Parser
