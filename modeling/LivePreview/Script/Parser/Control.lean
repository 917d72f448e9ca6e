import LivePreview.Script.Parser.Variables
/-!
# Choices, loops and jumps

The statements that choose what runs next. A statement that is the whole body of another one may not
declare what is bound to a block.
-/

namespace LivePreview.Script.Parser

variable (g : Grammar)

/-- An expression in parentheses. -/
def parenthesizedTest : Parser Expr := do
  expect "("
  let e ← expression g
  expect ")"
  return e

/-- A statement that is the body of another one. -/
def singleBody : Parser Stmt := g.statement true

/-! ## Choices -/

def ifStatement : Parser Stmt := do
  advance
  let test ← parenthesizedTest g
  let yes ← singleBody g
  if ← eatWord "else" then return .ifThen test yes (some (← singleBody g))
  else return .ifThen test yes none

/-- One clause of a `switch`. -/
def switchClause : Parser (Option Stmt) := do
  if ← endsStatements then return none
  else
    let test ←
      if ← eatWord "case" then pure (some (← expression g))
      else if ← eatWord "default" then pure none
      else fail .expectedClause (← start)
    expect ":"
    let body ← many do
      if (← endsStatements) || (← atWords ["case", "default"]) then return none
      else return some (← g.statement false)
    return some (.switchCase test body)

def switchStatement : Parser Stmt := do
  advance
  let value ← parenthesizedTest g
  expect "\x7b"
  let cases ← many (switchClause g)
  expect "\x7d"
  return .switchOn value cases

/-! ## Loops -/

/-- The head of a counting loop behind its first part, and its body. -/
def countingLoop (offset : Nat) (isAwait : Bool) (init : Option Stmt) (ds : List Declarator) :
    Parser Stmt := do
  expect ";"
  ds.forM checkValue
  let test ←
    if ← atSigns [";", ")"] then pure none else pure (some (← expressionWithIn g))
  expect ";"
  let update ← if ← atSign ")" then pure none else pure (some (← expressionWithIn g))
  expect ")"
  if isAwait then note .awaitLoop offset
  return .forLoop init test update (← singleBody g)

/-- A loop over keys, behind its word. -/
def keyLoop (offset : Nat) (isAwait : Bool) (left : Stmt) : Parser Stmt := do
  let right ← expression g
  expect ")"
  if isAwait then note .awaitLoop offset
  return .forIn left right (← singleBody g)

/-- A loop over values, behind its word. -/
def valueLoop (isAwait : Bool) (left : Stmt) : Parser Stmt := do
  let right ← g.assignment
  expect ")"
  return .forOf isAwait left right (← singleBody g)

/-- A loop whose head starts with variables. -/
def variableLoop (offset : Nat) (isAwait : Bool) (kind : VariableKind) : Parser Stmt := do
  let ds ← loopVariables g kind
  let left : Stmt := .declaration kind (ds.map (·.target))
  if ← eatWord "of" then valueLoop g isAwait left
  else if ← eatWord "in" then keyLoop g offset isAwait left
  else countingLoop g offset isAwait (some left) ds

/-- A loop whose head starts with variables that are disposed of. They do not hold keys. -/
def usingLoop (offset : Nat) (isAwait : Bool) : Parser Stmt := do
  let declared ← start
  let awaited ← atWord "await"
  let left ← within (fun c => { c with allowIn := false }) (usingDeclaration g true)
  if ← eatWord "of" then valueLoop g isAwait left
  else if ← eatWord "in" then
    note (.usingKeys awaited) declared
    keyLoop g offset isAwait left
  else countingLoop g offset isAwait (some left) []

/-- A loop whose head starts with an expression. -/
def expressionLoop (offset : Nat) (isAwait : Bool) : Parser Stmt := do
  let left ← start
  let isAsync ←
    if ← atWord "async" then
      if (← token).escaped then pure false else peekNext fun t => t.kind == .word "of"
    else pure false
  let e ← within (fun c => { c with allowIn := false }) (expression g)
  if ← atWord "of" then
    if isAsync && !isAwait then note .asyncOf left
    let target ← asTarget e left
    advance
    valueLoop g isAwait (.expression target)
  else if ← atWord "in" then
    let target ← asTarget e left
    advance
    keyLoop g offset isAwait (.expression target)
  else countingLoop g offset isAwait (some (.expression e)) []

/-- Whether the word `let` at the head of a loop opens a list of variables. -/
def atLoopLet : Parser Bool := do
  if ← atWord "let" then
    peekNext fun t => t.kind.isSign ["\x7b", "["] || (t.kind.isWord && t.kind != .word "in")
  else return false

def forStatement : Parser Stmt := do
  let offset ← start
  advance
  let isAwait ← atWord "await"
  if isAwait then
    if !(← context).allowAwait then note .awaitOutside (← start)
    advance
  expect "("
  if ← atSigns [";", ")"] then countingLoop g offset isAwait none []
  else if ← atWord "var" then variableLoop g offset isAwait .var
  else if ← atWord "const" then variableLoop g offset isAwait .constant
  else if ← atLoopLet then variableLoop g offset isAwait .block
  else if (← atUsing true) || (← atAwaitUsing) then usingLoop g offset isAwait
  else expressionLoop g offset isAwait

def whileStatement : Parser Stmt := do
  advance
  let test ← parenthesizedTest g
  return .whileLoop test (← singleBody g)

def doStatement : Parser Stmt := do
  advance
  let body ← singleBody g
  expectWord "while"
  let test ← parenthesizedTest g
  discard <| eat ";"
  return .doWhile body test

/-! ## Jumps and handlers -/

/-- The label behind `break` and `continue`. -/
def jumpLabel : Parser (Option String) := do
  let label ←
    if ← mayEndStatement then pure none
    else if (← kind).isName then pure (some (← anyWord))
    else unexpected
  endStatement
  return label

def returnStatement : Parser Stmt := do
  let offset ← start
  advance
  let value ← if ← mayEndStatement then pure none else pure (some (← expressionWithIn g))
  endStatement
  if !(← context).allowReturn then note .returnOutside offset
  return .returnStmt value

def throwStatement : Parser Stmt := do
  let offset ← start
  advance
  if (← token).afterBreak then note .newlineAfterThrow offset
  let e ← expression g
  endStatement
  return .throwStmt e

/-- The handler of a `try` behind its word. -/
def catchClause : Parser Stmt := do
  let param ←
    if ← eat "(" then
      let p ← g.bindingTarget
      discard <| typeAnnotation g
      expect ")"
      pure (some p)
    else pure none
  return .catchClause param (← block g)

def tryStatement : Parser Stmt := do
  advance
  let body ← block g
  let bodyStop := (← get).previousStop
  let handler ← if ← eatWord "catch" then pure (some (← catchClause g)) else pure none
  let finalizer ←
    if ← eatWord "finally" then pure (some (Stmt.block (← block g))) else pure none
  if handler.isNone && finalizer.isNone then note .missingHandler bodyStop
  return .tryCatch body handler finalizer

def withStatement : Parser Stmt := do
  advance
  let object ← parenthesizedTest g
  return .withStmt object (← singleBody g)

end LivePreview.Script.Parser
