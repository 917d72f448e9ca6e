/-!
# What can be wrong with a source

Each cause has one constructor, and `message` words it. A `Diagnostic` is a cause at an offset,
counted in characters; a cause without a place of its own is reported at the start.
-/

namespace LivePreview.Script

/-- Where a modifier may not stand, or where alone it may. -/
inductive ModifierSite where
  | here
  | parameter
  | indexSignature
  | typeMember
  | typeParameter
  | classMember
  | privateName
  /-- It may stand only in front of a type parameter. -/
  | onlyTypeParameter
  /-- It may stand only in front of a property. -/
  | onlyProperty
deriving DecidableEq, Repr

/-- Why a source is refused. -/
inductive SyntaxError where
  | unexpectedToken
  /-- A line that marks where two versions of a file differ. -/
  | diffMarker
  | expected (wanted found : String)
  /-- A list that neither goes on with `separator` nor ends with `closing`. -/
  | expectedOneOf (separator closing found : String)
  | missingSemicolon
  -- tokens
  | unterminatedString
  | unterminatedRegex
  | unterminatedComment
  | afterNumber
  | invalidCharacter (c : Char)
  | unexpectedEnd
  | invalidEscape
  | invalidUnicodeEscape
  | templateEscape
  | escapedKeyword
  | unknownFlag (flag : Char)
  | repeatedFlag (flag : Char)
  | exclusiveFlags
  -- names
  | reservedName (word : String)
  | identifierExpected
  | awaitAsName
  | yieldAsName
  | functionName
  -- expressions
  | awaitOutside
  | yieldOutside
  | mixedCoalescing
  | unaryPower
  /-- Parentheses around nothing. -/
  | nothingInParentheses
  /-- A default outside of a pattern, as in `({ a = 1 })`. -/
  | defaultInObject
  | breakBeforeArrow
  | straySuper
  | taggedChain
  | newChain
  | newImport
  | newProperty
  | importProperty
  | importWithoutSource
  | importArguments
  -- targets of assignments
  | invalidTarget
  | spreadNotLast
  | restTrailingComma
  | restTarget
  | defaultOperator
  -- parameters and patterns
  | restParameterNotLast
  | restElementNotLast
  | restWithValue
  | restOptional
  | restPattern
  | optionalWithValue
  | fieldPattern
  | thisInArrow
  | thisInConstructor
  | constructorTypeParameters
  | getterParameters
  | setterParameters
  | setterRest
  | setterResult
  | setterValue
  -- markup
  | closingTag (name : String)
  /-- A brace or an angle bracket in text between tags, and its entity. -/
  | strayInText (c : Char) (entity : String)
  | emptyAttribute
  | dashedMember
  | commaInBraces
  | prefixedTag
  | valuelessKey
  | pragmaWithRuntime
  | sourceWithPragma
  -- statements
  | missingConstantValue
  | missingPatternValue
  | missingHandler
  | newlineAfterThrow
  | expectedClause
  | returnOutside
  | singleLexical
  | singleClass
  | singleAsync
  | singleGenerator
  | asyncOf
  | awaitLoop
  | usingWithoutValue
  | usingPattern
  | usingBreak
  | usingAwait
  | usingKeys (isAwait : Bool)
  | usingExported
  | usingInClause
  | definiteWithoutType
  | definiteWithValue
  -- classes
  | modifierSeen (modifier : String)
  | accessibilitySeen
  | modifierOrder (modifier later : String)
  | misplacedModifier (modifier : String) (site : ModifierSite)
  | constantMember
  | misplacedDecorator
  | bodilessDecorator
  | decoratorsAround
  | extendsSeen
  | extendsLate
  | implementsSeen
  | secondBase
  | constructorAccessor
  | constructorAsync
  | constructorGenerator
  | constructorField
  | privateConstructor
  | staticPrototype
  | abstractMethod (name : String)
  | abstractAccessor (name : String)
  | abstractProperty (name : String)
  | optionalDefinite
  -- types
  | emptyTypeParameters
  | emptyTypeArguments
  | readonlyType
  | requiredAfterOptional
  | optionalAfterRest
  | restAfterRest
  | restAndOptional
  | labeledOptional
  | labeledRest
  | indexWithoutType
  | indexParameterOptional
  | indexParameterWithoutType
  | indexParameterCount
  | interfaceBase
  | interfaceImplements
  | numericMember
  | computedMember
  | looseNamespaceExport
  -- imports and exports
  | exportedReserved
  | exportedString
  | exportedHalf
  | repeatedAttribute (key : String)
  | typeInTypeImport
  | typeInTypeExport
  | repeatedExport (name : String)
deriving DecidableEq, Repr

namespace SyntaxError

/-- A modifier in a place where it may not stand. -/
def misplaced (modifier : String) (site : ModifierSite) : String :=
  match site with
  | .privateName => "An accessibility modifier cannot be used with a private identifier."
  | site =>
    "'" ++ modifier ++ "' modifier " ++
      match site with
      | .here => "cannot be used here."
      | .parameter => "cannot appear on a parameter."
      | .indexSignature => "cannot appear on an index signature."
      | .typeMember => "cannot appear on a type member."
      | .typeParameter => "cannot appear on a type parameter."
      | .classMember => "cannot appear on class elements of this kind."
      | .onlyTypeParameter =>
        "can only appear on a type parameter of a class, interface or type alias."
      | .onlyProperty => "can only appear on a property declaration or index signature."
      | .privateName => ""

/-- The text that is shown. -/
def message : SyntaxError → String
  | unexpectedToken => "Unexpected token"
  | diffMarker => "Encountered diff marker"
  | expected wanted found => "Expected `" ++ wanted ++ "` but found `" ++ found ++ "`"
  | expectedOneOf separator closing found =>
    "Expected `" ++ separator ++ "` or `" ++ closing ++ "` but found `" ++ found ++ "`"
  | missingSemicolon =>
    "Expected a semicolon or an implicit semicolon after a statement, but found none"
  | unterminatedString => "Unterminated string"
  | unterminatedRegex => "Unterminated regular expression"
  | unterminatedComment => "Unterminated multiline comment"
  | afterNumber => "Invalid characters after number"
  | invalidCharacter c => "Invalid Character `" ++ String.singleton c ++ "`"
  | unexpectedEnd => "Unexpected end of file"
  | invalidEscape => "Invalid escape sequence"
  | invalidUnicodeEscape => "Invalid Unicode escape sequence"
  | templateEscape => "Bad escape sequence in untagged template literal"
  | escapedKeyword => "Keywords cannot contain escape characters"
  | unknownFlag c => "Unexpected flag " ++ String.singleton c ++ " in regular expression literal"
  | repeatedFlag c =>
    "Flag " ++ String.singleton c ++ " is mentioned twice in regular expression literal"
  | exclusiveFlags =>
    "The 'u' and 'v' regular expression flags cannot be enabled at the same time"
  | reservedName word =>
    "Identifier expected. '" ++ word ++ "' is a reserved word that cannot be used here."
  | identifierExpected => "Identifier expected."
  | awaitAsName => "Cannot use `await` as an identifier in an async context"
  | yieldAsName => "Cannot use `yield` as an identifier in a generator context"
  | functionName => "Expected function name"
  | awaitOutside =>
    "`await` is only allowed within async functions and at the top levels of modules"
  | yieldOutside => "A 'yield' expression is only allowed in a generator body."
  | mixedCoalescing =>
    "Logical expressions and coalesce expressions cannot be mixed"
  | unaryPower => "Unexpected exponentiation expression"
  | nothingInParentheses => "Empty parenthesized expression"
  | defaultInObject => "Invalid assignment in object literal"
  | breakBeforeArrow => "Line terminator not permitted before arrow"
  | straySuper => "'super' can only be used with function calls or in property accesses"
  | taggedChain => "Tagged template expressions are not permitted in an optional chain"
  | newChain => "Invalid optional chain from new expression."
  | newImport => "Cannot use new with dynamic import"
  | newProperty => "The only valid meta property for new is new.target"
  | importProperty => "The only valid meta property for import is import.meta"
  | importWithoutSource => "import() requires a specifier."
  | importArguments =>
    "Dynamic imports can only accept a module specifier and an optional set of attributes as " ++
      "arguments"
  | invalidTarget => "Cannot assign to this expression"
  | spreadNotLast => "Spread must be last element"
  | restTrailingComma =>
    "A rest parameter or binding pattern may not have a trailing comma."
  | restTarget => "Invalid rest operator's argument."
  | defaultOperator => "Only `=` operator can be used for specifying default value."
  | restParameterNotLast => "A rest parameter must be last in a parameter list"
  | restElementNotLast => "A rest element must be last in a destructuring pattern"
  | restWithValue => "A rest element cannot have an initializer."
  | restOptional => "A rest parameter cannot be optional"
  | restPattern => "Invalid rest element"
  | optionalWithValue => "A parameter cannot have a question mark and an initializer."
  | fieldPattern => "A parameter property may not be declared using a binding pattern."
  | thisInArrow => "An arrow function cannot have a 'this' parameter."
  | thisInConstructor => "A constructor cannot have a 'this' parameter."
  | constructorTypeParameters => "Type parameters cannot appear on a constructor declaration"
  | getterParameters => "A 'get' accessor must not have any formal parameters."
  | setterParameters => "A 'set' accessor must have exactly one parameter."
  | setterRest => "A 'set' accessor cannot have rest parameter."
  | setterResult => "A 'set' accessor cannot have a return type annotation."
  | setterValue => "A 'set' accessor parameter cannot have an initializer."
  | closingTag name => "Expected corresponding JSX closing tag for '" ++ name ++ "'."
  | strayInText c entity =>
    "Unexpected token. Did you mean `\x7b'" ++ String.singleton c ++ "'\x7d` or `&" ++ entity ++
      ";`?"
  | emptyAttribute => "JSX attributes must only be assigned a non-empty 'expression'."
  | dashedMember => "Identifiers in JSX cannot contain hyphens"
  | commaInBraces => "JSX expressions may not use the comma operator"
  | prefixedTag =>
    "Namespace tags are not supported by default. React's JSX doesn't support namespace tags. " ++
      "You can set `throwIfNamespace: false` to bypass this warning."
  | valuelessKey =>
    "Please provide an explicit key value. Using \"key\" as a shorthand for " ++
      "\"key=\x7btrue\x7d\" is not allowed."
  | pragmaWithRuntime => "pragma and pragmaFrag cannot be set when runtime is automatic."
  | sourceWithPragma => "importSource cannot be set when runtime is classic."
  | missingConstantValue => "Missing initializer in const declaration"
  | missingPatternValue => "Missing initializer in destructuring declaration"
  | missingHandler => "Missing catch or finally clause"
  | newlineAfterThrow => "Illegal newline after throw"
  | expectedClause => "Expected switch clause"
  | returnOutside => "A 'return' statement can only be used within a function body."
  | singleLexical => "Lexical declaration cannot appear in a single-statement context"
  | singleClass => "Invalid class declaration"
  | singleAsync => "Async functions can only be declared at the top level or inside a block"
  | singleGenerator => "Generators can only be declared at the top level or inside a block"
  | asyncOf => "The left-hand side of a `for...of` statement may not be `async`"
  | awaitLoop => "await can only be used in conjunction with `for...of` statements"
  | usingWithoutValue => "Using declarations must have an initializer."
  | usingPattern => "Using declarations may not have destructuring patterns."
  | usingBreak => "Line terminator not permitted before using declaration"
  | usingAwait => "The lookahead `await` is not allowed in a using declaration"
  | usingKeys isAwait =>
    "The left-hand side of a for...in statement cannot be an " ++
      (if isAwait then "await " else "") ++ "using declaration."
  | usingExported => "Using declarations cannot be exported directly."
  | usingInClause => "Using declaration cannot appear in the bare case statement."
  | definiteWithoutType =>
    "Declarations with definite assignment assertions must also have type annotations."
  | definiteWithValue =>
    "Declarations with initializers cannot also have definite assignment assertions."
  | modifierSeen w => "'" ++ w ++ "' modifier already seen."
  | accessibilitySeen => "Accessibility modifier already seen."
  | modifierOrder w later => "'" ++ w ++ "' modifier must precede '" ++ later ++ "' modifier."
  | misplacedModifier w site => misplaced w site
  | constantMember => "A class member cannot have the 'const' keyword."
  | misplacedDecorator => "Decorators are not valid here."
  | bodilessDecorator =>
    "A decorator can only decorate a method implementation, not an overload."
  | decoratorsAround =>
    "Decorators may not appear after 'export' or 'export default' if they also appear before " ++
      "'export'."
  | extendsSeen => "'extends' clause already seen"
  | extendsLate => "'extends' clause must precede 'implements' clause"
  | implementsSeen => "'implements' clause already seen"
  | secondBase => "Classes can only extend a single class."
  | constructorAccessor => "Constructor can't have get/set modifier"
  | constructorAsync => "Constructor can't be an async method"
  | constructorGenerator => "Constructor can't be a generator"
  | constructorField => "Classes can't have a field named 'constructor'"
  | privateConstructor => "Classes can't have an element named '#constructor'"
  | staticPrototype => "Classes may not have a static property named 'prototype'"
  | abstractMethod name =>
    "Method '" ++ name ++ "' cannot have an implementation because it is marked abstract."
  | abstractAccessor name =>
    "Accessor '" ++ name ++ "' cannot have an implementation because it is marked abstract."
  | abstractProperty name =>
    "Property '" ++ name ++ "' cannot have an initializer because it is marked abstract."
  | optionalDefinite => "A property cannot be both optional and definite."
  | emptyTypeParameters => "Type parameter list cannot be empty."
  | emptyTypeArguments => "Type argument list cannot be empty."
  | readonlyType =>
    "'readonly' type modifier is only permitted on array and tuple literal types."
  | requiredAfterOptional => "A required element cannot follow an optional element."
  | optionalAfterRest => "An optional element cannot follow a rest element."
  | restAfterRest => "A rest element cannot follow another rest element."
  | restAndOptional => "A tuple member cannot be both optional and rest."
  | labeledOptional =>
    "A labeled tuple element is declared as optional with a question mark after the name and " ++
      "before the colon, rather than after the type."
  | labeledRest =>
    "A labeled tuple element is declared as rest with a `...` before the name, rather than " ++
      "before the type."
  | indexWithoutType => "An index signature must have a type annotation."
  | indexParameterOptional => "An index signature parameter cannot have a question mark."
  | indexParameterWithoutType => "An index signature parameter must have a type annotation."
  | indexParameterCount => "An index signature must have exactly one parameter."
  | interfaceBase =>
    "An interface can only extend an identifier/qualified-name with optional type arguments."
  | interfaceImplements => "Interface declaration cannot have 'implements' clause."
  | numericMember => "An enum member cannot have a numeric name."
  | computedMember => "Computed property names are not allowed in enums."
  | looseNamespaceExport =>
    "Namespaces exporting non-const are not supported by Babel. Change to const or see: " ++
      "https://babeljs.io/docs/en/babel-plugin-transform-typescript"
  | exportedReserved => "A reserved word cannot be used as an exported binding without `from`"
  | exportedString => "A string literal cannot be used as an exported binding without `from`"
  | exportedHalf => "An export name cannot include a unicode lone surrogate"
  | repeatedAttribute key => "Identifier `" ++ key ++ "` has already been declared"
  | typeInTypeImport =>
    "The 'type' modifier cannot be used on a named import when 'import type' is used on its " ++
      "import statement."
  | typeInTypeExport =>
    "The 'type' modifier cannot be used on a named export when 'export type' is used on its " ++
      "export statement."
  | repeatedExport name => "Duplicated export '" ++ name ++ "'"

end SyntaxError

/-- A cause at an offset of the source, in characters. -/
structure Diagnostic where
  cause : SyntaxError
  offset : Nat
deriving DecidableEq, Repr

end LivePreview.Script
