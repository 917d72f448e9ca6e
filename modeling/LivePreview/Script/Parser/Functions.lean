import LivePreview.Script.Parser.Types
/-!
# Functions and patterns

A function's body is read in surroundings of its own: whether `await` and `yield` are operators
depends on the function alone, except that an arrow function keeps an outer `await`.
-/

namespace LivePreview.Script.Parser

variable (g : Grammar)

/-- Expressions joined by commas. -/
def expression : Parser Expr := do
  let e ← g.assignment
  let more ← many do if ← eat "," then return some (← g.assignment) else return none
  return if more.isEmpty then e else .sequence (e :: more)

/-! ## Lists of statements -/

/-- A statement that consists of a string, written as `raw` between its quotes, is a directive;
whether it is one. -/
def asDirective (raw : String) : Stmt → Stmt × Bool
  | .expression (.string _) => (.directive raw, true)
  | .expression (.brokenString _) => (.directive raw, true)
  | .commented cs s =>
    let (s, isDirective) := asDirective raw s
    (.commented cs s, isDirective)
  | s => (s, false)

/-- A statement at the head of a body, and whether it is a directive. -/
def headStatement : Parser (Stmt × Bool) := do
  match ← kind with
  | .string _ raw => return asDirective raw (← g.statement false)
  | .brokenString _ raw => return asDirective raw (← g.statement false)
  | _ => return (← g.statement false, false)

/-- One more statement of a body, unless it ends; the flag tells whether there were only directives
so far. -/
def bodyStep (ends : Parser Bool) (before : List Stmt × Bool) :
    Parser (Option (List Stmt × Bool)) := do
  if ← ends then return none
  else
    let (s, isDirective) ← if before.2 then headStatement g else pure (← g.statement false, false)
    return some (s :: before.1, isDirective)

/-- The statements of a body. The comments in front of its end belong to a `nothing`. -/
def bodyStatements (ends : Parser Bool) : Parser (List Stmt) := do
  let (body, _) ← grow (bodyStep g ends) ([], true)
  let comments := (← token).comments
  return body.reverse ++ if comments.isEmpty then [] else [.commented comments .nothing]

/-- Whether a list of statements ends at the current token. -/
def endsStatements : Parser Bool := do return (← atSign "\x7d") || (← atEnd)

/-- Statements in braces. -/
def block : Parser (List Stmt) := do
  expect "\x7b"
  let body ← many do
    if ← endsStatements then return none else return some (← g.statement false)
  expect "\x7d"
  return body

/-! ## Functions -/

/-- The body of a function, in its braces. -/
def functionBody : Parser (List Stmt) := do
  expect "\x7b"
  let body ← within
    (fun c => { c with allowReturn := true, noConditionalType := false, decorator := false })
    (bodyStatements g endsStatements)
  expect "\x7d"
  return body

/-- A function from its type parameters on. -/
structure FunctionParts where
  /-- Where its type parameters start. -/
  typeParameters : Option Nat
  /-- Where its parameters start. -/
  offset : Nat
  params : List Expr
  /-- Where its parameter `this` stands. -/
  this : Option Nat
  /-- Without a body it is only declared. -/
  body : Option (List Stmt)

/-- The surroundings inside a function that is no arrow function. -/
def inFunction (isAsync isGenerator : Bool) (c : Context) : Context :=
  { c with
    allowIn := true, allowAwait := isAsync, allowYield := isGenerator, decorator := false }

/-- The type parameters, parameters, result type and body of a function. -/
def functionParts (kind : FunctionKind) (isAsync isGenerator : Bool) : Parser FunctionParts :=
  within (inFunction isAsync isGenerator) do
    let isGeneric := (← typed) && (← atAngle)
    let generic ← start
    if isGeneric then typeParameters g
    let offset ← start
    let (params, this) ← parameters g kind
    returnType g
    let body ←
      if ← atSign "\x7b" then pure (some (← functionBody g))
      else if ← typed then pure none
      else failExpected "\x7b"
    return ⟨if isGeneric then some generic else none, offset, params, this, body⟩

/-- The place of a function, which decides about its name. -/
inductive FunctionSite where
  | declaration
  | defaultExport
  | expression
deriving DecidableEq

/-- The name of a function; only a declaration must have one. -/
def functionName (site : FunctionSite) (isAsync isGenerator : Bool) : Parser (Option String) := do
  match ← kind with
  | .word w =>
    if !isReserved w then
      let own (c : Context) : Context :=
        if site = .expression then { c with allowAwait := isAsync, allowYield := isGenerator }
        else c
      return some (← within own (variableName w))
    else if site = .declaration then failExpected "Identifier"
    else return none
  | .punct "(" =>
    if site = .declaration then note .functionName (← start)
    return none
  | _ => return none

/-- A function at its word `function`, in front of which it was declared asynchronous or not;
nothing if it has no body. -/
def function (site : FunctionSite) (isAsync : Bool) : Parser (Option Expr) := do
  expectWord "function"
  let isGenerator ← eat "*"
  let name ← functionName site isAsync isGenerator
  let parts ← functionParts g .plain isAsync isGenerator
  return parts.body.map (.function name isAsync isGenerator parts.params)

/-- Notes that a getter takes arguments, or that a setter does not take just one. -/
def checkAccessor (kind : MethodKind) (parts : FunctionParts) : Parser Unit := do
  let isRest : Expr → Bool
    | .spread _ => true
    | .decorated _ (.spread _) => true
    | _ => false
  match kind with
  | .method => return
  | .getter => if !parts.params.isEmpty then note .getterParameters parts.offset
  | .setter =>
    if parts.params.any isRest then note .setterRest parts.offset
    else if parts.params.length != 1 then note .setterParameters parts.offset

/-! ## Keys -/

/-- A literal, a name or an expression in brackets as the key of a member. -/
def memberKey : Parser Expr := do
  match ← kind with
  | .word w =>
    advanceName
    return .name w
  | .string v _ =>
    advance
    return .string v
  | .brokenString text _ =>
    advance
    return .brokenString text
  | .number n _ =>
    advance
    return .number n
  | .bigint n _ =>
    advance
    return .bigint n
  | .punct "[" =>
    advance
    let e ← within (fun c => { c with allowIn := true, decorator := false }) g.assignment
    expect "]"
    return .computed e
  | _ => unexpected

/-! ## Binding patterns -/

/-- A pattern inside another one, with its default. -/
def bindingElement : Parser Expr := do
  let target ← g.bindingTarget
  return withDefault target (← initialValue g)

/-- The rest of an object, behind its points: a name. -/
def objectRest : Parser Expr := do
  let offset ← start
  let target ← restTarget g false
  if isPattern target then note .restPattern offset
  return target

/-- A property of an object pattern; whether it is the rest is told. -/
def bindingProperty : Parser (Member × Bool) := do
  if ← eat "..." then return (.spread (← objectRest g), true)
  else
    let isName := (← kind).isName
    let key ← memberKey g
    if isName && !(← atSign ":") then
      match key with
      | .name n =>
        record n
        match ← initialValue g with
        | some value => return (.shorthandDefault n value, false)
        | none => return (.shorthand n, false)
      | _ => unexpected
    else
      expect ":"
      return (.property key (← bindingElement g), false)

/-- An element of an array pattern; whether it is the rest is told. -/
def bindingItem : Parser (Expr × Bool) := do
  if ← atSigns [",", "]"] then return (.hole, false)
  else if ← eat "..." then return (.spread (← restTarget g false), true)
  else return (← bindingElement g, false)

/-- A name or a destructuring pattern. -/
def bindingTargetBody : Parser Expr := do
  if ← eat "[" then return .array (← restListTo "]" .restElementNotLast (bindingItem g))
  else if ← eat "\x7b" then
    return .pattern (← restListTo "\x7d" .restElementNotLast (bindingProperty g))
  else return .name (← bindingName)

end LivePreview.Script.Parser
