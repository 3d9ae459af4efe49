import NameCheck.Span
import NameCheck.Text.Quoted

/-!
What can be wrong with a source text, and how each fault is worded.
-/
namespace NameCheck.Syntax

/-- A cause for which a source text is rejected, or accepted with a complaint. -/
inductive Fault where
  | endOfText
  | expected (wanted got : String)
  | unexpectedToken (got wanted : String)
  | unexpectedChar (c : Char)
  | expressionExpected
  | nameExpected
  | statementEnd
  | semicolonExpected
  | trailingComma
  | commaAfterRest
  | digitExpected (radix : Nat)
  | exponentExpected
  | nameAfterNumber
  | misplacedSeparator
  | legacyOctal
  | legacyDecimal
  | typedOctal
  | badEscape (wanted : String)
  | invalidEscape
  | invalidNameChar
  | escapedKeyword (word : String)
  | stringEscape
  | escapeExpected
  | unterminatedString
  | unterminatedTemplate
  | unterminatedRegex
  | unterminatedComment
  | legacyComment
  | duplicateFlag (flag : Char)
  | unknownFlags
  | usingDisabled
  | usingDestructured
  | usingUninitialised
  | strictName (name : String)
  | strictBinding
  | awaitName
  | awaitOutsideAsync
  | awaitStar
  | awaitParameter
  | yieldParameter
  | argumentsInField
  | notAPattern
  | assignmentTarget
  | invalidTarget
  | restrictedUse
  | notSimpleTarget
  | restNotLast
  | restElementNotLast
  | restWithoutName
  | restInitialised
  | strictDirective
  | restOptional
  | optionalInitialised
  | initialiserInAmbient
  | arrowLineBreak
  | arrowHere
  | emptyParens
  | spreadInParens
  | invalidExpression
  | defaultedProperty
  | duplicateConstructor
  | asyncConstructor
  | generatorConstructor
  | accessorConstructor
  | fieldConstructor
  | privateConstructor
  | spaceAfterHash
  | getterParameters
  | setterParameters
  | setterRest
  | readonlyMethod
  | readonlyAccessor
  | abstractMethod
  | abstractProperty
  | abstractBody
  | secondBase
  | className
  | interfaceName
  | numericMember
  | computedMember
  | secondExtends
  | lateExtends
  | secondImplements
  | hiddenAccess
  | hiddenModifier (modifier : String)
  | abstractInitialiser
  | constructorTypes
  | constructorResult
  | propertyPattern
  | repeatedModifier (modifier : String)
  | lateModifier (modifier after : String)
  | conflictingModifiers (modifier other : String)
  | needlessOverride
  | constructorModifier (modifier : String)
  | abstractHere
  | modifiersHere
  | declareOnMethod
  | ambientBody
  | ambientNested
  | parameterProperty
  | withInStrict
  | withUnsupported
  | returnOutside
  | breakOutside
  | breakLabel
  | continueOutside
  | continueLabel
  | duplicateLabel (name : String)
  | labelledFunction
  | labelledGenerator
  | declarationHere
  | importHere
  | throwLineBreak
  | secondDefault
  | initialiserInLoop
  | manyLoopVariables
  | typedLoopVariable
  | asyncLoopVariable
  | awaitedLoop
  | usingInLoop
  | destructuredLoop
  | constUninitialised
  | patternUninitialised
  | deleteName
  | deleteOperand
  | unaryPower
  | mixedNullish
  | newTarget
  | chainInNew
  | chainInTemplate
  | superHere
  | superCall
  | nonNullHere (word : String)
  | importHereExpression
  | closingTag (name : String)
  | emptyAttribute
  | looseMarkup (mark escape : String)
  | computedSequence
  | optionalProperty
  | modifierHere
  | emptyParameterList
  | constTypeParameter
  | varianceHere (modifier : String)
  | typeParameterModifier (modifier : String)
  | nameMissing
  | importTypeArgument
  | indexParameters
  | requiredElement
  | emptyDeclarations
  | attributeValue
  | optionalPattern
  | typeInTypeImport
  | typeInTypeExport
  | hiddenSignature
  | stringBinding (text : String)
  | stringExport
  | exportNeedsFrom (name : String)
deriving DecidableEq, Repr, Inhabited

namespace Fault

/-- The kind of digit that numbers of a radix are written with. -/
def digitKind : Nat → String
  | 2 => "a binary"
  | 8 => "an octal"
  | 16 => "a hexadecimal"
  | _ => "a decimal"

def message : Fault → String
  | endOfText => "Unexpected eof"
  | expected wanted got => "Expected '" ++ wanted ++ "', got '" ++ got ++ "'"
  | unexpectedToken got wanted => "Unexpected token `" ++ got ++ "`. Expected " ++ wanted
  | unexpectedChar c => "Unexpected character " ++ Text.quotedChar c
  | expressionExpected => "Expression expected"
  | nameExpected => "Expected ident"
  | statementEnd => "Expected ';', '\x7d' or <eof>"
  | semicolonExpected => "Expected a semicolon"
  | trailingComma => "Trailing comma is not allowed"
  | commaAfterRest => "Trailing comma isn't permitted after a rest element"
  | digitExpected radix => "Expected " ++ digitKind radix ++ " digit"
  | exponentExpected => "Expected +, - or decimal digit after e"
  | nameAfterNumber => "Identifier cannot follow number"
  | misplacedSeparator => "A numeric separator is only allowed between two digits"
  | legacyOctal => "Legacy octal escape is not permitted in strict mode"
  | legacyDecimal => "Legacy decimal escape is not permitted in strict mode"
  | typedOctal => "Legacy octal literals are not available when targeting ECMAScript 5 and higher"
  | badEscape wanted => "Bad character escape sequence, expected " ++ wanted
  | invalidEscape => "Invalid unicode escape"
  | invalidNameChar => "Invalid character in identifier"
  | escapedKeyword word => "Unexpected escape sequence in reserved word: " ++ word
  | stringEscape => "Invalid string escape"
  | escapeExpected => "Expected unicode escape"
  | unterminatedString => "Unterminated string constant"
  | unterminatedTemplate => "Unterminated template"
  | unterminatedRegex => "Unterminated regexp literal"
  | unterminatedComment => "Unterminated block comment"
  | legacyComment => "Legacy comments cannot be used in module code"
  | duplicateFlag flag => "Duplicated regular expression flag '" ++ flag.toString ++ "'."
  | unknownFlags => "Unknown regular expression flags."
  | usingDisabled => "Using declaration is not enabled. Set jsc.parser.explicitResourceManagement to true"
  | usingDestructured => "Using declaration only allows identifiers"
  | usingUninitialised => "Using declaration requires initializer"
  | strictName name => "`" ++ name ++ "` cannot be used as an identifier in strict mode"
  | strictBinding => "'eval' and 'arguments' cannot be used as a binding identifier in strict mode"
  | awaitName => "`await` cannot be used as an identifier in an async context"
  | awaitOutsideAsync => "await isn't allowed in non-async function"
  | awaitStar => "await* has been removed from the async functions proposal. Use Promise.all() instead."
  | awaitParameter => "`await` expressions cannot be used in a parameter initializer."
  | yieldParameter => "'yield' cannot be used as a parameter within generator"
  | argumentsInField => "'arguments' is only allowed in functions and class methods"
  | notAPattern => "Not a pattern"
  | assignmentTarget => "The left-hand side of an assignment expression must be a variable or a property access."
  | invalidTarget => "Invalid assignment target"
  | restrictedUse => "Invalid use of 'arguments' in strict mode"
  | notSimpleTarget => "Cannot assign to this"
  | restNotLast => "A rest parameter must be last in a parameter list"
  | restElementNotLast => "Rest element must be final element"
  | restWithoutName => "`...` must be followed by an identifier in declaration contexts"
  | restInitialised => "A rest parameter cannot have an initializer"
  | strictDirective => "Illegal 'use strict' directive in function with non-simple parameter list."
  | restOptional => "A rest parameter cannot be optional"
  | optionalInitialised => "Parameter cannot have question mark and initializer"
  | initialiserInAmbient => "A parameter initializer is only allowed in a function or constructor implementation"
  | arrowLineBreak => "Unexpected line break between arrow head and arrow"
  | arrowHere => "An arrow function is not allowed here"
  | emptyParens => "Parenthesized expression cannot be empty"
  | spreadInParens => "Parenthesized expression cannot contain spread operator"
  | invalidExpression => "Not an expression"
  | defaultedProperty => "assignment property is invalid syntax"
  | duplicateConstructor => "A class can only have one constructor"
  | asyncConstructor => "Constructor can't be an async function"
  | generatorConstructor => "Constructor can't be a generator"
  | accessorConstructor => "Class constructor can't be an accessor"
  | fieldConstructor => "Classes may not have a non-static field named 'constructor'"
  | privateConstructor => "Classes can't have a private field named '#constructor'."
  | spaceAfterHash => "Unexpected space between # and identifier"
  | getterParameters => "A `get` accessor cannot have parameters"
  | setterParameters => "A `set` accessor must have exactly one parameter"
  | setterRest => "Rest pattern is not allowed in setter"
  | readonlyMethod => "A method cannot be readonly"
  | readonlyAccessor => "A getter or a setter cannot be readonly"
  | abstractMethod => "Abstract methods can only appear within an abstract class."
  | abstractProperty => "Abstract properties can only appear within an abstract class."
  | abstractBody => "Abstract method cannot have an implementation."
  | secondBase => "Classes can only extend a single class"
  | className => "Invalid class name"
  | interfaceName => "interface name is invalid"
  | numericMember => "An enum member cannot have a numeric name"
  | computedMember => "Computed property names are not allowed in enums"
  | secondExtends => "`extends` clause already seen."
  | lateExtends => "'extends' clause must precede 'implements' clause."
  | secondImplements => "`implements` clause already seen"
  | hiddenAccess => "An accessibility modifier cannot be used with a private identifier."
  | hiddenModifier modifier => "'" ++ modifier ++ "' modifier cannot be used with a private identifier"
  | abstractInitialiser => "Abstract property cannot have an initializer."
  | constructorTypes => "Type parameters cannot appear on a constructor declaration"
  | constructorResult => "Type annotation cannot appear on a constructor declaration"
  | propertyPattern => "Typescript parameter property must be an identifier or assignment pattern"
  | repeatedModifier modifier => "'" ++ modifier ++ "' modifier already seen."
  | lateModifier modifier after => "'" ++ modifier ++ "' modifier must precede '" ++ after ++ "' modifier."
  | conflictingModifiers modifier other =>
    "'" ++ modifier ++ "' modifier cannot be used with '" ++ other ++ "' modifier."
  | needlessOverride =>
    "This member cannot have an 'override' modifier because its containing class does not extend another class."
  | constructorModifier modifier => "'" ++ modifier ++ "' modifier cannot appear on a constructor declaration"
  | abstractHere => "`abstract` modifier can only appear on a class or method declaration"
  | modifiersHere => "Modifiers cannot appear here"
  | declareOnMethod => "`declare` modifier cannot appear on class elements of this kind"
  | ambientBody => "An implementation cannot be declared in ambient contexts"
  | ambientNested => "`declare` modifier not allowed for code already in an ambient context"
  | parameterProperty => "A parameter property is only allowed in a constructor implementation"
  | withInStrict => "With statement are not allowed in strict mode"
  | withUnsupported =>
    "The 'with' statement is not supported. All symbols in a 'with' block will have type 'any'."
  | returnOutside => "Return statement is not allowed here"
  | breakOutside => "A 'break' statement can only be used within an enclosing iteration or switch statement"
  | breakLabel => "A 'break' statement can only jump to a label of an enclosing statement"
  | continueOutside =>
    "A 'continue' statement can only jump to a label of an enclosing iteration statement"
  | continueLabel => "Jump target cannot cross function boundary"
  | duplicateLabel name => "Label " ++ name ++ " is already declared"
  | labelledFunction => "Function cannot be labelled in strict mode"
  | labelledGenerator => "Generator or async function cannot be labelled"
  | declarationHere => "Declaration is not allowed"
  | importHere => "'import', and 'export' cannot be used outside of module code"
  | throwLineBreak => "LineBreak cannot follow 'throw'"
  | secondDefault => "A switch block cannot have multiple defaults"
  | initialiserInLoop => "Unexpected initializer in for in/of loop"
  | manyLoopVariables => "Expected one variable binding"
  | typedLoopVariable => "The left-hand side of a 'for...of' statement cannot use a type annotation"
  | asyncLoopVariable => "The left-hand side of a `for...of` statement may not be `async`"
  | awaitedLoop => "for await syntax is valid only for for-of statement"
  | usingInLoop => "Using declaration is not allowed in for-in loop"
  | destructuredLoop => "The left-hand side of a 'for...in' statement cannot be a destructuring pattern"
  | constUninitialised => "'const' declarations must be initialized"
  | patternUninitialised => "Destructuring bindings require initializers"
  | deleteName => "'delete' cannot be called on an identifier in strict mode"
  | deleteOperand => "The operand of a 'delete' operator must be a property reference."
  | unaryPower => "'**' cannot be applied to unary/await expression."
  | mixedNullish => "Nullish coalescing operator(??) requires parens when mixing with logical operators"
  | newTarget =>
    "'new.target' is only allowed in the body of a function declaration, function expression, or class."
  | chainInNew => "Constructor in/after an optional chaining is not allowed."
  | chainInTemplate => "Tagged template literal is not allowed in optional chain."
  | superHere => "Invalid access to super"
  | superCall => "Invalid `super()`"
  | nonNullHere word => "Typescript non-null assertion operator is not allowed with '" ++ word ++ "'"
  | importHereExpression => "'import' is not allowed here."
  | closingTag name => "Expected corresponding JSX closing tag for <" ++ name ++ ">"
  | emptyAttribute => "JSX attributes must only be assigned a non-empty expression"
  | looseMarkup mark escape => "Unexpected token. Did you mean `\x7b'" ++ mark ++ "'\x7d` or `" ++ escape ++ "`?"
  | computedSequence => "A comma expression is not allowed in a computed property name"
  | optionalProperty => "An object member cannot be declared optional"
  | modifierHere => "'readonly' modifier cannot be used here."
  | constTypeParameter => "'const' modifier can only appear on a type parameter of a function, method or class"
  | varianceHere modifier =>
    "'" ++ modifier ++ "' modifier can only appear on a type parameter of a class, interface or type alias"
  | typeParameterModifier modifier => "'" ++ modifier ++ "' modifier cannot appear on a type parameter"
  | nameMissing => "Expected an identifier"
  | importTypeArgument => "literal in an import type should be string literal"
  | indexParameters => "An index signature must have exactly one parameter"
  | requiredElement => "A required element cannot follow an optional element."
  | emptyDeclarations => "Variable declaration list cannot be empty"
  | optionalPattern => "A binding pattern parameter cannot be optional in an implementation signature."
  | attributeValue => "JSX value should be either an expression or a quoted JSX text"
  | typeInTypeImport =>
    "The 'type' modifier cannot be used on a named import when 'import type' is used on its import statement."
  | typeInTypeExport =>
    "The 'type' modifier cannot be used on a named export when 'export type' is used on its export statement."
  | emptyParameterList => "Type parameter list cannot be empty"
  | hiddenSignature => "private names are not allowed in interface"
  | stringBinding text =>
    "A string literal cannot be used as an imported binding.\n- Did you mean `import \x7b \"" ++ text ++
      "\" as foo \x7d`?"
  | stringExport => "A string literal cannot be used as an exported binding without `from`."
  | exportNeedsFrom name => "`" ++ name ++ "` cannot be used without `from` clause"

end Fault

/-- A fault and where it stands. -/
structure Problem where
  span : Span
  fault : Fault
deriving DecidableEq, Repr, Inhabited

end NameCheck.Syntax
