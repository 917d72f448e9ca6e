import LivePreview.Script.Parser.Markup
/-!
# Variables

Lists of variables, and the words that open them. The words `let` and `using` may also be names:
what follows tells.
-/

namespace LivePreview.Script.Parser

variable (g : Grammar)

/-! ## Lists of variables -/

/-- A variable, and what is wrong with it unless a loop sets it. -/
structure Declarator where
  target : Expr
  fault : Option Diagnostic

/-- What is wrong with a target between two offsets that has no value: a constant and a pattern need
one. -/
def missingValue (kind : VariableKind) (target : Expr) (offset stop : Nat) : Option Diagnostic :=
  if isPattern target then some ⟨.missingPatternValue, offset⟩
  else if kind = .constant then some ⟨.missingConstantValue, stop⟩
  else none

/-- A mark behind a variable says that it is set later on: it has a type, and no value yet. -/
def checkDefinite (mark : Option Nat) (hasType hasValue : Bool) : Parser Unit := do
  match mark with
  | none => return
  | some offset =>
    if hasValue then note .definiteWithValue offset
    else if !hasType then note .definiteWithoutType offset

/-- A variable with its type and its initial value. -/
def declarator (kind : VariableKind) : Parser Declarator := do
  let offset ← start
  let target ← g.bindingTarget
  let stop := (← get).previousStop
  let markAt ← start
  let isMarked ← if ← typed then eat "!" else pure false
  let hasType ← typeAnnotation g
  let value ← if ← eat "=" then pure (some (← g.assignment)) else pure none
  checkDefinite (if isMarked then some markAt else none) hasType value.isSome
  let isAmbient := (← context).ambient
  return ⟨withDefault target value,
    if value.isSome || isAmbient then none else missingValue kind target offset stop⟩

/-- Notes that a variable lacks a value. -/
def checkValue (d : Declarator) : Parser Unit := do
  match d.fault with
  | some f => note f.cause f.offset
  | none => return

/-- Items joined by commas, at least one. -/
def commaList {α : Type} (item : Parser α) : Parser (List α) := do
  let first ← item
  let more ← many do if ← eat "," then return some (← item) else return none
  return first :: more

/-- A list of variables as a statement, at the word that opens it. -/
def variableStatement (kind : VariableKind) : Parser Stmt := do
  advance
  let ds ← commaList do
    let d ← declarator g kind
    checkValue d
    return d.target
  endStatement
  return .declaration kind ds

/-- A list of variables in the head of a loop, at the word that opens it. -/
def loopVariables (kind : VariableKind) : Parser (List Declarator) := do
  advance
  within (fun c => { c with allowIn := false }) (commaList (declarator g kind))

/-! ## The word `using` -/

/-- Whether the current word is `using` and opens a list of variables. -/
def atUsing (inLoop : Bool) : Parser Bool := do
  if ← atWord "using" then
    peekNext fun t => !t.afterBreak && (t.kind.isName || t.kind == .punct "\x7b") &&
      !(inLoop && t.kind == .word "of")
  else return false

/-- Whether the words `await using` open a list of variables. -/
def atAwaitUsing : Parser Bool := do
  if ← atWord "await" then
    peek do
      advanceName
      atUsing false
  else return false

/-- A list of variables that are disposed of at the end, which a loop may set. They are names and
have values. -/
def usingDeclaration (inLoop : Bool) : Parser Stmt := do
  let isAwait ← eatWord "await"
  expectWord "using"
  if (← token).afterBreak then note .usingBreak (← start)
  if ← atWord "await" then
    note .usingAwait (← start)
    advance
  let kind : VariableKind := if isAwait then .awaitDisposable else .disposable
  let ds ← commaList do
    let offset ← start
    let d ← declarator g kind
    let (target, hasValue) :=
      match d.target with
      | .initialized t _ => (t, true)
      | t => (t, false)
    if isPattern target then note .usingPattern offset
    if !hasValue && !inLoop then note .usingWithoutValue offset
    return d.target
  return .declaration kind ds

/-! ## The word `let` -/

/-- What the word `let` is at the start of a statement. -/
inductive LetForm where
  | declaration
  | expression
  /-- A name that is a statement by itself. -/
  | name
deriving DecidableEq

/-- What the word `let` in front of a token is; `single` tells that the statement is the body of
another one. -/
def LetForm.before (single : Bool) (t : Token) : LetForm :=
  let operators := assignOperators ++ binaryOperators.map (·.1)
  if t.kind.isSign operators || t.kind.isOneOf operators || t.kind.isSign [".", "("] then expression
  else if (single && t.kind != .punct "[") || t.kind == .punct ";" then name
  else declaration

/-- What the current word `let` is. -/
def letForm (single : Bool) : Parser LetForm := do
  let form ← lookahead do
    advanceName
    return LetForm.before single (← token)
  return form.getD .declaration

end LivePreview.Script.Parser
