import LivePreview.Script.Parser.Parameters
/-!
# Members of types

What stands between the braces of an interface, of an object type or of a mapped type, and between
the brackets of a tuple. Nothing of it remains; each parser finds where its construct ends and notes
what may not stand in it.
-/

namespace LivePreview.Script.Parser

variable (g : Grammar)

/-! ## Signatures -/

/-- The type parameters, the parameters and the result of a signature; the offset of the parameter
`this` if it has one. -/
def signature : Parser (Option Nat) := do
  typeParameters g
  let (_, this) ← parameters g .plain
  returnType g
  return this

/-- A constructor's signature may not have a parameter `this`. -/
def refuseThis (cause : SyntaxError) (this : Option Nat) : Parser Unit := do
  match this with
  | some offset => note cause offset
  | none => return

/-- The key of a member of a type. -/
def typeKey : Parser Unit := do
  let t ← token
  if t.kind.isWord then advanceName
  else if t.kind.isString || t.kind.isNumber then advance
  else if ← eat "[" then
    discard <| within (fun c => { c with allowIn := true }) g.assignment
    expect "]"
  else unexpected

/-! ## Index signatures -/

/-- Whether an index signature starts at the current bracket: one whose first word is followed by
what no expression goes on with. -/
def atIndexSignature : Parser Bool := do
  if !(← atSign "[") then return false
  else peek do
    advance
    match ← kind with
    | .word w =>
      let isModifier := modifierWords.contains w
      if isReserved w && !isModifier then return false
      else
        advanceName
        if isModifier && (← kind).isName then return true
        else if ← atSigns [":", ","] then return true
        else if ← eat "?" then atSigns [":", ",", "]"]
        else return false
    | k => return k.isSign ["...", "["]

/-- The parameter of an index signature. -/
def indexParameter : Parser Unit := do
  let offset ← start
  let _ ← anyWord
  if ← atSign "?" then
    note .indexParameterOptional (← start)
    advance
  if !(← typeAnnotation g) then note .indexParameterWithoutType offset

/-- An index signature without its end, of a member that starts at an offset. -/
def indexSignature (offset : Nat) : Parser Unit := do
  expect "["
  let params ← listTo "]" "," (indexParameter g)
  if !(← typeAnnotation g) then fail .indexWithoutType offset
  if params.length != 1 then note .indexParameterCount offset

/-! ## Members in braces -/

/-- An accessor of a type, behind its word. -/
def accessorSignature (isSetter : Bool) : Parser Unit := do
  typeKey g
  let _ ← parameters g .plain
  let offset ← start
  let hasResult ← atSign ":"
  returnType g
  if isSetter && hasResult then note .setterResult offset

/-- A property or a method of a type, with an optional mark. -/
def propertySignature : Parser Unit := do
  typeKey g
  discard <| eat "?"
  if (← atSign "(") || (← atAngle) then discard <| signature g
  else discard <| typeAnnotation g

/-- A member of an interface or of an object type; the sign behind it may be missing. -/
def typeMember : Parser Unit := do
  let offset ← start
  if (← atSign "(") || (← atAngle) then discard <| signature g
  else if (← atWord "new") && (← peekNext fun t => t.kind.isSign ["(", "<", "<<"]) then
    advance
    refuseThis .thisInConstructor (← signature g)
  else
    let ms ← modifiers false false
    allowOnly ["readonly"] (fun w => .misplacedModifier w .typeMember) ms
    if ← atModifier "get" then
      advance
      accessorSignature g false
    else if ← atModifier "set" then
      advance
      accessorSignature g true
    else if ← atIndexSignature then indexSignature g offset
    else propertySignature g
  if !(← eat ",") then discard <| eat ";"

/-- The members of an interface or of an object type, with their braces. -/
def typeMembers : Parser Unit := do
  expect "\x7b"
  let _ ← many do
    if (← atSign "\x7d") || (← atEnd) then return none
    else
      typeMember g
      return some ()
  expect "\x7d"

/-! ## Mapped types -/

/-- Whether a mapped type starts at the current brace. -/
def atMappedType : Parser Bool := peek do
  advance
  if ← atSigns ["+", "-"] then
    advance
    atWord "readonly"
  else
    discard <| eatWord "readonly"
    if ← eat "[" then
      if (← kind).isName then
        advanceName
        atWord "in"
      else return false
    else return false

/-- A mapped type with its braces. -/
def mappedType : Parser Unit := do
  expect "\x7b"
  if ← atSigns ["+", "-"] then
    advance
    expectWord "readonly"
  else discard <| eatWord "readonly"
  expect "["
  record (← anyWord)
  expectWord "in"
  discard <| g.typeExpr
  if ← eatWord "as" then discard <| g.typeExpr
  expect "]"
  if ← atSigns ["+", "-"] then
    advance
    expect "?"
  else discard <| eat "?"
  discard <| typeAnnotation g
  discard <| eat ";"
  expect "\x7d"

/-! ## Tuples -/

/-- What an element of a tuple stands for. -/
inductive TupleElement where
  | required
  | optional
  /-- Any number of values of one type. -/
  | rest
  /-- The elements of another tuple. -/
  | variadic
deriving DecidableEq

/-- What an element with three points in front of its type stands for. -/
def TupleElement.ofRest (form : TypeForm) : TupleElement :=
  if form = .array then rest else variadic

/-- The type of an element, and what the element stands for if it has no name. -/
def elementType : Parser (TypeForm × TupleElement) := do
  if ← eat "..." then
    let form ← g.typeExpr
    return (form, .ofRest form)
  else
    let form ← g.typeExpr
    return (form, if form = .optional then .optional else .required)

/-- Whether the current element of a tuple has a name. -/
def atElementName : Parser Bool := peek do
  discard <| eat "..."
  let _ ← anyWord
  discard <| eat "?"
  atSign ":"

/-- An element of a tuple in its place. A name bears the marks that otherwise stand at the type. -/
def tupleElement : Parser (Nat × TupleElement) := do
  let offset ← start
  if ← atElementName then
    let isRest ← eat "..."
    let _ ← anyWord
    let isOptional ← eat "?"
    expect ":"
    let typeOffset ← start
    let (form, element) ← elementType g
    match element with
    | .required => pure ()
    | .optional => note .labeledOptional typeOffset
    | _ => note .labeledRest typeOffset
    if isRest && isOptional then note .restAndOptional offset
    return (offset,
      if isRest then .ofRest form else if isOptional then .optional else .required)
  else return (offset, (← elementType g).2)

/-- Notes the elements that may not follow others: `optional` and `rest` tell whether there was such
an element before. -/
def checkTuple (optional rest : Bool) : List (Nat × TupleElement) → Parser Unit
  | [] => return
  | (offset, element) :: more => do
    match element with
    | .required => if optional then note .requiredAfterOptional offset
    | .optional => if rest then note .optionalAfterRest offset
    | .rest => if rest then note .restAfterRest offset
    | .variadic => pure ()
    checkTuple (optional || element = .optional) (rest || element = .rest) more

/-- A tuple with its brackets. -/
def tupleType : Parser Unit := do
  expect "["
  checkTuple false false (← listTo "]" "," (tupleElement g))

end LivePreview.Script.Parser
