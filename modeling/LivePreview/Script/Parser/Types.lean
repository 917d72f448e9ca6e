import LivePreview.Script.Parser.TypeMembers
/-!
# Types

Types are read and leave nothing behind: each parser here only finds where a type ends, and tells
what its surroundings ask about it.
-/

namespace LivePreview.Script.Parser

variable (g : Grammar)

/-! ## Names -/

/-- Names joined by points, behind the first one. -/
def dottedTail : Parser Unit := do
  let _ ← many do
    if ← eat "." then
      let _ ← anyWord
      return some ()
    else return none

/-- Names joined by points; the first one is that of a variable or a type. -/
def dottedName : Parser Unit := do
  record (← anyWord)
  dottedTail

/-- Type arguments, which start on the line of what they belong to. -/
def ownTypeArguments : Parser Unit := do
  if !(← token).afterBreak then typeArguments g

/-- A type that is called by its name. -/
def namedType : Parser Unit := do
  dottedName
  ownTypeArguments g

/-- The type in `import("m").T<U>`, at its word. -/
def importType : Parser Unit := do
  advance
  expect "("
  discard <| g.typeExpr
  if ← eat "," then
    if !(← atSign ")") then
      let _ ← g.assignment
      discard <| eat ","
  expect ")"
  dottedTail
  ownTypeArguments g

/-! ## Simple types -/

/-- The pieces of a template literal type after its first one. -/
def templateTypeTail : Parser Unit := do
  let _ ← many do
    discard <| g.typeExpr
    match ← kind with
    | .punct "\x7d" =>
      recut (Lexer.template false) ['}']
      match ← kind with
      | .template _ _ last _ =>
        advance
        return if last then none else some ()
      | _ => unexpected
    | _ => failExpected "\x7d"

/-- The type of a value, at its word. -/
def valueType : Parser Unit := do
  advance
  if ← atWord "import" then importType g else namedType g

/-- A word as a type. -/
def wordType (w : String) : Parser Unit := do
  if w == "typeof" then valueType g
  else if w == "import" then importType g
  else if ["null", "void", "true", "false"].contains w then advance
  else if w == "this" then
    advance
    if (← atWord "is") && !(← token).afterBreak then
      advance
      discard <| g.typeExpr
  else if w == "asserts" && (← peekNext fun t => t.kind.isWord && !t.afterBreak) then
    advance
    advanceName
    if ← eatWord "is" then discard <| g.typeExpr
  else namedType g

/-- A type behind a question mark, which may also stand alone. -/
def nullableType : Parser Unit := do
  expect "?"
  if !(← atSigns [",", "\x7d", ")", ">", "=", "|"]) then discard <| g.typeExpr

/-- A type without operators and brackets behind it. -/
def simpleType : Parser TypeForm := do
  let marks ← many do if ← eat "!" then return some () else return none
  match ← kind with
  | .template _ _ last _ =>
    advance
    if !last then templateTypeTail g
    return .other
  | .punct "[" =>
    tupleType g
    return if marks.isEmpty then .tuple else .other
  | .punct "\x7b" =>
    if ← atMappedType then mappedType g else typeMembers g
    return .other
  | .punct "(" =>
    advance
    discard <| within (fun c => { c with noConditionalType := false }) g.typeExpr
    expect ")"
    return .other
  | .punct "-" =>
    if ← peekNext fun t => t.kind.isNumber then
      advance
      advance
      return .other
    else unexpected
  | .punct "?" =>
    nullableType g
    return .other
  | .word w =>
    wordType g w
    return .other
  | k =>
    if k.isString || k.isNumber then
      advance
      return .other
    else unexpected

/-! ## Operators -/

/-- The reserved words that a type can start with. -/
def typeWords : List String :=
  ["typeof", "import", "this", "null", "void", "true", "false", "new", "function"]

/-- Whether a type starts at the current token. -/
def atType : Parser Bool := peek do
  let parens ← many do if ← eat "(" then return some () else return none
  match ← kind with
  | .word w =>
    return !isReserved w || typeWords.contains w || (!parens.isEmpty && modifierWords.contains w)
  | .template _ opens _ _ => return opens
  | .punct "-" => peekNext fun t => t.kind.isNumber
  | k =>
    return k.isString || k.isNumber ||
      k.isSign ["\x7b", "[", "<", "|", "&", "*", "?", "!", "..."] ||
      (!parens.isEmpty && k.isSign [")", "@"])

/-- One operator behind a type. -/
def postfixStep (_ : TypeForm) : Parser (Option TypeForm) := do
  if (← token).afterBreak then return none
  else if ← eat "!" then return some .other
  else if ← atSign "?" then
    -- a type behind it shows that it belongs to a conditional type
    if ← peek do
        advance
        atType then
      return none
    else
      advance
      return some .optional
  else if ← eat "[" then
    if ← atType then
      discard <| within (fun c => { c with noConditionalType := false }) g.typeExpr
      expect "]"
      return some .other
    else
      expect "]"
      return some .array
  else return none

/-- A simple type with the operators behind it. -/
def postfixType : Parser TypeForm := do grow (postfixStep g) (← simpleType g)

/-- A name that a conditional type finds, with its bound: a bound that is followed by a question
mark is the condition instead. -/
def inferredName : Parser Unit := do
  let _ ← bindingName
  if ← atWord "extends" then
    discard <| attempt do
      advance
      discard <| within (fun c => { c with noConditionalType := true }) g.typeExpr
      if !(← context).noConditionalType && (← atSign "?") then unexpected

/-- A type with the operators in front of it. -/
def operatorType : Parser TypeForm := do
  if ← atWords ["keyof", "unique"] then
    advance
    discard <| g.typeOperator
    return .other
  else if ← atWord "readonly" then
    let offset ← start
    advance
    let form ← g.typeOperator
    if form != .array && form != .tuple then note .readonlyType offset
    return .other
  else if ← eatWord "infer" then
    inferredName g
    return .other
  else within (fun c => { c with noConditionalType := false }) (postfixType g)

/-- Types joined by a sign, which may also stand in front of the first one. -/
def joinedTypes (sign : String) (operand : Parser TypeForm) : Parser TypeForm := do
  let leading ← eat sign
  let form ← operand
  let more ← many do
    if ← eat sign then return some (← operand) else return none
  return if leading || !more.isEmpty then .other else form

def unionType : Parser TypeForm := joinedTypes "|" (joinedTypes "&" (operatorType g))

/-! ## Function types and conditional types -/

/-- Skips what a parameter of a function type may start with; whether it was there. -/
def skipParameterStart : Parser Bool := do
  let _ ← modifiers false false
  let k ← kind
  if k.isName || k == .word "this" then
    advanceName
    return true
  else if k.isSign ["[", "\x7b"] then
    let noted := (← get).error
    let _ ← g.bindingTarget
    return (← get).error = noted
  else return false

/-- Whether the current parenthesis begins the parameters of a function type. -/
def atTypeParameters : Parser Bool := peek do
  advance
  if ← atSigns [")", "..."] then return true
  else if ← skipParameterStart g then
    if ← atSigns [":", ",", "?", "="] then return true
    else if ← eat ")" then atSign "=>"
    else return false
  else return false

/-- Whether a function type or a constructor type starts at the current token. -/
def atFunctionType : Parser Bool := do
  if (← atAngle) || (← atWord "new") then return true
  else if ← atWord "abstract" then peekNext fun t => t.kind == .word "new"
  else if ← atSign "(" then atTypeParameters g
  else return false

/-- The type of functions or constructors. -/
def functionType : Parser Unit := do
  discard <| eatWord "abstract"
  let isConstructor ← eatWord "new"
  typeParameters g
  let (_, this) ← parameters g .plain
  expect "=>"
  typeOrPredicate g
  if isConstructor then refuseThis .thisInConstructor this

/-- A type. -/
def typeBody : Parser TypeForm := do
  if ← atFunctionType g then
    functionType g
    return .other
  else
    let form ← unionType g
    if !(← context).noConditionalType && !(← token).afterBreak then
      if ← eatWord "extends" then
        discard <| within (fun c => { c with noConditionalType := true }) g.typeExpr
        expect "?"
        discard <| within (fun c => { c with noConditionalType := false }) g.typeExpr
        expect ":"
        discard <| within (fun c => { c with noConditionalType := false }) g.typeExpr
        return .other
      else return form
    else return form

/-! ## Type arguments of expressions -/

/-- The reserved words that an expression can start with. -/
def expressionWords : List String :=
  ["this", "super", "null", "true", "false", "function", "class", "new", "typeof", "void", "delete",
   "import"]

/-- Whether what follows type arguments in an expression shows that they were no comparison: what
cannot start an expression, an operator with two operands, or a line break. -/
def mayFollowTypeArguments (t : Token) : Bool :=
  match t.kind with
  | .template _ _ _ _ => true
  | .eof => true
  | .word w =>
    t.afterBreak || ["as", "satisfies"].contains w ||
      (isReserved w && !expressionWords.contains w)
  | .punct p =>
    if p == "(" then true
    else if ["<", ">", "+", "-"].contains p then false
    else t.afterBreak || !(["[", "\x7b", "~", "!", "++", "--", "@", "/="].contains p)
  | _ => t.afterBreak

/-- Whether the closing angle bracket at the current token is joined with an equals sign. -/
def atAngleEquals : Parser Bool := do
  return (← atSign ">") && (← get).rest.head? == some '='

/-- Type arguments in an expression, if these are some: whether they were read. -/
def expressionTypeArguments : Parser Bool := do
  if (← typed) && (← atAngle) then
    let found ← attempt do
      splitAngle
      let offset ← start
      expect "<"
      let items ← listUntil ">" "," g.typeExpr
      if ← atAngleEquals then unexpected
      expect ">"
      if items.isEmpty then note .emptyTypeArguments offset
      if mayFollowTypeArguments (← token) then return () else unexpected
    return found.isSome
  else return false

end LivePreview.Script.Parser
