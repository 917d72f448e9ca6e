import LivePreview.Script.Parser.Classes
import LivePreview.Script.Parser.Literals
/-!
# Members and calls

Primary expressions and what may stand behind them: members, templates, calls and type arguments.
Arguments keep the comments in front of them.
-/

namespace LivePreview.Script.Parser

variable (g : Grammar)

/-! ## Arguments -/

/-- An expression with the comments that were in front of it. -/
def withComments (comments : List Comment) (e : Expr) : Expr :=
  if comments.isEmpty then e else .commented comments e

/-- An argument that is no spread, with the comments in front of it. -/
def commentedArgument : Parser Expr := do
  let comments ← takeComments
  return withComments comments (← g.assignment)

/-- An argument with the comments in front of it. -/
def argument : Parser Expr := do
  let comments ← takeComments
  if ← eat "..." then return withComments comments (.spread (← g.assignment))
  else return withComments comments (← g.assignment)

/-- The closing parenthesis of arguments. The comments in front of it belong to a `hole`. -/
def closing : Parser (List Expr) := do
  let comments ← takeComments
  expect ")"
  return if comments.isEmpty then [] else [.commented comments .hole]

/-- Arguments in parentheses. -/
def arguments : Parser (List Expr) := do
  expect "("
  let args ← within (fun c => { c with allowIn := true, decorator := false })
    (listUntil ")" "," (argument g))
  return args ++ (← closing)

/-! ## Primary expressions -/

/-- Whether the word `async` begins a function. -/
def atAsyncFunction : Parser Bool := do
  if ← atWord "async" then peekNext fun t => t.kind == .word "function" && !t.afterBreak
  else return false

/-- A function that must have a body. -/
def functionExpression (isAsync : Bool) : Parser Expr := do
  match ← function g .expression isAsync with
  | some f => return f
  | none => failExpected "\x7b"

/-- The word `super`, which is no value by itself. -/
def superExpression : Parser Expr := do
  let offset ← start
  advance
  if !(← atSigns [".", "[", "("]) then note .straySuper offset
  return .superRef

/-- A word that is an expression or begins one. -/
def wordExpression (w : String) : Parser Expr := do
  let constant (e : Expr) : Parser Expr := do
    advance
    return e
  if w == "this" then constant .thisRef
  else if w == "null" then constant .null
  else if w == "true" then constant (.bool true)
  else if w == "false" then constant (.bool false)
  else if w == "super" then superExpression
  else if w == "function" then functionExpression g false
  else if w == "class" then classFrom g []
  else if ← atAsyncFunction then
    advance
    functionExpression g true
  else return .name (← referenceName)

/-- A literal, a name, or something in brackets. -/
def operand : Parser Expr := do
  match ← kind with
  | .string v _ =>
    advance
    return .string v
  | .brokenString text _ =>
    advance
    return .brokenString text
  | .number n _ =>
    advance
    return .number n
  | .bigint n _ =>
    advance
    return .bigint n
  | .template _ _ _ _ => template g false
  | .punct "(" => parenthesized g
  | .punct "[" => array g
  | .punct "\x7b" => object g
  | .punct "/" => regex
  | .punct "/=" => regex
  | .punct "@" =>
    let decorators ← many (decorator g)
    classFrom g decorators
  | .word w => wordExpression g w
  | _ => unexpected

/-- The arguments of an import at an offset: a source, and perhaps options. -/
def importArguments (offset : Nat) (phase : Option String) : Parser Expr := do
  expect "("
  if ← atSign ")" then fail .importWithoutSource offset
  let args ← within (fun c => { c with allowIn := true, decorator := false }) do
    let source ← commentedArgument g
    if (← eat ",") && !(← atSign ")") then return [source, ← commentedArgument g]
    else return [source]
  discard <| eat ","
  if !(← atSign ")") then fail .importArguments offset
  return .importCall phase (args ++ (← closing))

/-- An `import` that is called, or `import.meta`. -/
def importExpression : Parser Expr := do
  let offset ← start
  expectWord "import"
  if ← eat "." then
    if ← eatWord "meta" then return .metaProperty "import" "meta"
    else if ← eatWord "source" then importArguments g offset (some "source")
    else if ← eatWord "defer" then importArguments g offset (some "defer")
    else fail .importProperty offset
  else if ← atSign "(" then importArguments g offset none
  else unexpected

/-! ## Members -/

/-- The member behind a point. -/
def pointMember (object : Expr) (optional : Bool) : Parser Expr := do
  match ← kind with
  | .privateName n =>
    advance
    return .privateMember object n optional
  | _ => return .member object (← anyWord) optional

/-- The key of an element in brackets, after the opening one. -/
def bracketMember (object : Expr) (optional : Bool) : Parser Expr := do
  let key ← within (fun c => { c with allowIn := true, decorator := false }) (expression g)
  expect "]"
  return .index object key optional

/-- A template behind a tag, which must be no optional chain. -/
def taggedTemplate (tag : Expr) (inChain : Bool) : Parser Expr := do
  if inChain then note .taggedChain (← start)
  return .tagged tag (← template g true)

/-- One step behind an expression that is no call. The callee of `new` is no optional chain. -/
def memberStep (inNew : Bool) (e : Expr) : Parser (Option Expr) := do
  let t ← token
  match t.kind with
  | .punct "." =>
    advance
    return some (← pointMember e false)
  | .punct "?." =>
    if inNew then fail .newChain t.start
    else if ← peekNext fun t => t.kind.isWord || t.kind.isPrivate || t.kind == .punct "[" then
      advance
      if ← eat "[" then return some (← bracketMember g e true)
      else return some (← pointMember e true)
    else return none
  | .punct "[" =>
    if (← context).decorator then return none
    else
      advance
      return some (← bracketMember g e false)
  | .punct "!" =>
    if (← typed) && !t.afterBreak then
      advance
      return some e
    else return none
  | .template _ true _ _ => return some (← taggedTemplate g e e.isOptionalChain)
  | .punct p =>
    if p == "<" || p == "<<" then
      if ← expressionTypeArguments g then return some e else return none
    else return none
  | _ => return none

/-- One step behind an expression. -/
def callStep (e : Expr) : Parser (Option Expr) := do
  match ← memberStep g false e with
  | some e => return some e
  | none =>
    if ← atSign "(" then return some (.call e (← arguments g) false false)
    else if ← eat "?." then
      discard <| expressionTypeArguments g
      match ← kind with
      | .punct "(" => return some (.call e (← arguments g) true false)
      | .template _ true _ _ => return some (← taggedTemplate g e true)
      | _ => unexpected
    else return none

/-- One more `new` in front of a callee, which is not that of `new.target`. -/
def newStep : Parser (Option Unit) := do
  if (← atWord "new") && !(← peekNext fun t => t.kind == .punct ".") then
    advance
    return some ()
  else return none

/-- The pair of words `new.target`. -/
def newTarget : Parser Expr := do
  let offset ← start
  advance
  expect "."
  if ← eatWord "target" then return .metaProperty "new" "target" else fail .newProperty offset

/-- An expression that no call follows, without `new` in front of it. -/
def callee : Parser Expr := do
  if ← atWord "new" then newTarget
  else if ← atWord "import" then importExpression g
  else operand g

/-- A callee behind `new`, with its members and its arguments. -/
def construct (offset : Nat) (e : Expr) : Parser Expr := do
  let e ← grow (memberStep g true) e
  match e with
  | .importCall _ _ => note .newImport offset
  | _ => pure ()
  let args ← if ← atSign "(" then arguments g else pure []
  return .new e args false

/-- A primary expression, which may be a new object: each `new` takes the arguments behind the
innermost callee that is left. -/
def primary : Parser Expr := do
  let news ← many newStep
  let offset ← start
  news.foldlM (fun e _ => construct g offset e) (← callee g)

/-- An expression that may stand on the left of an assignment. -/
def leftHandSideBody : Parser Expr := do grow (callStep g) (← primary g)

end LivePreview.Script.Parser
