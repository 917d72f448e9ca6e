import LivePreview.Script.Parser.Modifiers
/-!
# Type parameters and parameters

What stands in angle brackets and parentheses at the head of a function. Types leave nothing behind;
of a parameter its pattern remains, with its default and its decorators.
-/

namespace LivePreview.Script.Parser

variable (g : Grammar)

/-! ## Type arguments and type parameters -/

/-- Reads a `<` that the lexer joined with what follows it as a sign of its own. -/
def splitAngle : Parser Unit := do
  match ← kind with
  | .punct p =>
    if p.startsWith "<" && p != "<" then
      recut (fun s => Lexer.punctuation "<" (s.drop 1)) p.toList
    else return
  | _ => return

/-- Whether type arguments or parameters may start here. -/
def atAngle : Parser Bool := atSigns ["<", "<<"]

/-- Items in angle brackets, of which there must be some. -/
def angleList {α : Type} (none : SyntaxError) (item : Parser α) : Parser Unit := do
  if ← atAngle then
    splitAngle
    let offset ← start
    expect "<"
    let items ← listUntil ">" "," item
    expect ">"
    if items.isEmpty then note none offset

/-- Type arguments in a type. -/
def typeArguments : Parser Unit := angleList .emptyTypeArguments g.typeExpr

/-- One type parameter, with its bound and its default. -/
def typeParameter : Parser Unit := do
  let ms ← modifiers true false
  allowOnly ["in", "out", "const"] (fun w => .misplacedModifier w .typeParameter) ms
  let _ ← bindingName
  if ← eatWord "extends" then discard <| g.typeExpr
  if ← eat "=" then discard <| g.typeExpr

/-- Type parameters, if there are any. -/
def typeParameters : Parser Unit := angleList .emptyTypeParameters (typeParameter g)

/-- A type after a colon, if there is one: whether there is. -/
def typeAnnotation : Parser Bool := do
  if (← typed) && (← eat ":") then
    let _ ← g.typeExpr
    return true
  else return false

/-- A type, or a statement about a parameter, such as `x is T`. -/
def typeOrPredicate : Parser Unit := do
  let predicate ← peek do
    let t ← token
    match t.kind with
    | .word _ =>
      advance
      return (← atWord "is") && !(← token).afterBreak
    | _ => return false
  if predicate then
    advanceName
    advance
  discard <| g.typeExpr

/-- The type of a result after a colon, if there is one. -/
def returnType : Parser Unit := do
  if ← typed then
    if ← eat ":" then within (fun c => { c with noConditionalType := false }) (typeOrPredicate g)

/-! ## Parameters -/

/-- What the parameters belong to. -/
inductive FunctionKind where
  | plain
  | arrow
  | method
  | constructor
deriving DecidableEq

/-- The modifiers that the parameters of a function may have. -/
def FunctionKind.parameterModifiers : FunctionKind → List String
  | plain => ["readonly"]
  | arrow => ["readonly"]
  | method => fieldWords
  | constructor => fieldWords

/-- A decorator: `@` and what it calls. -/
def decorator : Parser (Option Expr) := do
  if ← eat "@" then
    return some (← within (fun c => { c with decorator := true }) g.leftHandSide)
  else return none

/-- An initial value behind its sign, if there is one. -/
def initialValue : Parser (Option Expr) := do
  if ← eat "=" then return some (← within (fun c => { c with allowIn := true }) g.assignment)
  else return none

/-- A pattern with a default, if there is one. -/
def withDefault (target : Expr) (value : Option Expr) : Expr :=
  match value with
  | some v => .initialized target v
  | none => target

/-- A pattern for what others left, behind its points. It has no default. -/
def restTarget (isParameter : Bool) : Parser Expr := do
  let offset ← start
  let target ← g.bindingTarget
  if isParameter && (← typed) then
    if ← atSign "?" then
      note .restOptional (← start)
      advance
    discard <| typeAnnotation g
  if (← initialValue g).isSome then note .restWithValue offset
  return target

def isPattern : Expr → Bool
  | .pattern _ => true
  | .array _ => true
  | _ => false

/-- A parameter: a pattern with an optional mark, a type and a default. Whether it takes all further
arguments is told. -/
def parameter (kind : FunctionKind) : Parser (Expr × Bool) := do
  let offset ← start
  let decorators ← many (decorator g)
  let ms ← modifiers false false
  allowOnly (if ← typed then kind.parameterModifiers else [])
    (fun w => .misplacedModifier w .parameter) ms
  let decorate (e : Expr) : Expr := if decorators.isEmpty then e else .decorated decorators e
  if ← eat "..." then return (decorate (.spread (← restTarget g true)), true)
  else
    let target ← g.bindingTarget
    let isOptional ← if ← typed then eat "?" else pure false
    discard <| typeAnnotation g
    let value ← initialValue g
    if isOptional && value.isSome then note .optionalWithValue offset
    let isField := fieldWords.any ms.has
    if isField && isPattern target then note .fieldPattern offset
    let e := withDefault target value
    return (decorate (if isField then .fieldParameter e else e), false)

/-- The parameter `this`, which only has a type: its offset. -/
def thisParameter : Parser (Option Nat) := do
  if (← typed) && (← atWord "this") then
    let offset ← start
    advance
    discard <| typeAnnotation g
    discard <| eat ","
    return some offset
  else return none

/-- Parameters in parentheses, and the offset of the parameter `this` if it is one of them. -/
def parameters (kind : FunctionKind) : Parser (List Expr × Option Nat) := do
  expect "("
  let this ← thisParameter g
  let params ← restListTo ")" .restParameterNotLast (parameter g kind)
  return (params, this)

end LivePreview.Script.Parser
