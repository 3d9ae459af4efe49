import NameCheck.Syntax.Parse.Types

/-!
Functions: their parameters and bodies, and declarations and expressions that start with `function`.
-/
namespace NameCheck.Syntax

/-- What follows the name of a function, by its parts. -/
structure FunctionRest where
  typeParameters : List Node
  parameters : List Node
  result : List Node
  body : Option (List Node)
deriving Inhabited

/-- The parts in the order in which they are visited. -/
def FunctionRest.parts (f : FunctionRest) : List Node :=
  f.parameters ++ f.body.getD [] ++ f.typeParameters ++ f.result

namespace Parser

/-- Reads what a step reads, up to and over the closing brace; a text that ends before it is a complaint. -/
def untilBrace (step : Parser Node) : Parser (List Node) := do
  let found ← repeatStep [] fun found => do
    if ← atEnd then
      report (← get).span (.expected "\x7d" "<eof>")
      return (found, false)
    else if ← eat .braceClose then return (found, false)
    else do
      let node ← step
      return (node :: found, true)
  return found.reverse

def block (read : Reader) : Parser (List Node) := do
  expect .braceOpen
  untilBrace (read (.statement true))

def bodyContext (isAsync isGenerator isArrow : Bool) (c : Context) : Context :=
  { c with
    inAsync := isAsync, inGenerator := isGenerator, inFunction := true
    inPlainFunction := if isArrow then c.inPlainFunction else true
    inStaticBlock := false, breakable := false, continuable := false }

/-- Reads the body of a function where one is needed. -/
def functionBody {α : Type} (isAsync isGenerator isArrow : Bool) (body : Parser α) : Parser α := do
  if (← context).ambient && (← typed) && (← isMark .braceOpen) then report (← get).span .ambientBody
  withoutLabels (inContext (bodyContext isAsync isGenerator isArrow) body)

/-- Whether a parameter is a plain name, with or without a type. -/
def isPlainParameter : Node → Bool
  | .ident _ => true
  | .group .annotated _ (.ident _ :: _) => true
  | _ => false

/-- The directive among the first statements of a body that asks for strict code. -/
def strictDirective? : List Node → Option Span
  | .group .statement span [.group (.text spelling) text _] :: rest =>
    if span.lo != text.lo then none
    else if spelling == "'use strict'" || spelling == "\"use strict\"" then some span
    else strictDirective? rest
  | _ => none

/-- Complains about a body that asks for strict code when the parameters are not plain names. -/
def checkDirective (parameters body : List Node) : Parser Unit := do
  if !parameters.all isPlainParameter then
    if let some span := strictDirective? body then report span .strictDirective

/-- Reads the body of a function with the given parameters; where types are read it may be left out. -/
def optionalBody (read : Reader) (isAsync isGenerator : Bool) (parameters : List Node) : Parser (Option (List Node)) :=
  functionBody isAsync isGenerator false do
    if ← pure ((← typed) && !(← isMark .braceOpen)) <&&> eatSemicolon then return none
    else do
      let body ← inContext ({ · with allowIn := true }) (block read)
      checkDirective parameters body
      return some body

def parameterContext (isAsync isGenerator : Bool) (c : Context) : Context :=
  { c with
    inAsync := isAsync, inGenerator := isGenerator, inParameters := true, inFunction := false
    inField := false, allowIn := true }

/-- Reads what follows the name of a function; `parameters` reads up to the closing parenthesis. -/
def functionRest (read : Reader) (isAsync isGenerator : Bool) (parameters : Parser (List Node)) :
    Parser FunctionRest :=
  inContext ({ · with inAsync := isAsync, inGenerator := isGenerator, inField := false, colonFollows := false }) do
    let types ← typeParameters? read .function
    expect .parenOpen
    let parameters ← inContext (parameterContext isAsync isGenerator) parameters
    expect .parenClose
    let result ← returnType? read
    let body ← optionalBody read isAsync isGenerator parameters
    if body.isNone then
      for parameter in parameters do
        if let .patternDefault span _ _ := parameter then report span .initialiserInAmbient
    return ⟨types, parameters, result, body⟩

/-- Reads a function that starts with the word `function`, whose span starts at `lo`: its generator mark,
its name and the rest. -/
def functionFromWord (read : Reader) (lo : Nat) (isAsync isExpression nameRequired : Bool) :
    Parser (Option Ident × FunctionHead × FunctionRest) := do
  expectWord "function"
  let isGenerator ← eat .star
  let nameContext (c : Context) : Context :=
    if isExpression then { c with inAsync := isAsync, inGenerator := isGenerator, inField := false }
    else { c with inField := false }
  let name ← inContext nameContext (if nameRequired then some <$> bindingName else bindingName?)
  let rest ← inContext ({ · with allowSuper := false }) (functionRest read isAsync isGenerator (parameters read))
  return (name, ⟨← spanFrom lo, isAsync⟩, rest)

/-- Reads the declaration of a function whose span starts at `lo`. -/
def functionDeclaration (read : Reader) (lo : Nat) (isAsync : Bool) : Parser Node := do
  let (name, head, rest) ← functionFromWord read lo isAsync false true
  return .fnDecl head (name.getD default) rest.parts

/-- Reads a function as an expression, whose span starts at `lo`. -/
def functionExpression (read : Reader) (lo : Nat) (isAsync : Bool) : Parser Node := do
  let (name, head, rest) ← functionFromWord read lo isAsync true false
  if rest.body.isNone then unexpected "\x7b"
  return .fnExpr head name rest.parts

end Parser

end NameCheck.Syntax
