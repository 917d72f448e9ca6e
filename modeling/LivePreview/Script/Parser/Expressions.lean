import LivePreview.Script.Operator
import LivePreview.Script.Parser.Arrows
/-!
# Expressions

Operators in front of and behind an operand, binary operators by their levels, conditionals and
assignments.
-/

namespace LivePreview.Script.Parser

variable (g : Grammar)

/-! ## Operators in front and behind -/

/-- A left hand side, perhaps with an operator behind it. -/
def postfixExpression : Parser Expr := do
  let offset ← start
  let e ← leftHandSideBody g
  let t ← token
  match t.kind with
  | .punct p =>
    if (p == "++" || p == "--") && !t.afterBreak then
      let target ← asSimpleTarget e offset
      advance
      return .update p false target
    else return e
  | _ => return e

/-- The word `await` with its operand. -/
def awaitExpression : Parser Expr := do
  if !(← context).allowAwait then note .awaitOutside (← start)
  advance
  return .awaitExpr (← within (fun c => { c with allowAwait := true }) g.unary)

/-- The operand behind an operator in front of it, or a left hand side with an operator behind. -/
def unaryBody : Parser Expr := do
  match ← kind with
  | .punct p =>
    if unarySigns.contains p then
      advance
      return .unary p (← g.unary)
    else if p == "++" || p == "--" then
      advance
      let offset ← start
      let e ← g.unary
      return .update p true (← asSimpleTarget e offset)
    else if p == "<" && (← typed) then return .markup (← g.markup false)
    else postfixExpression g
  | .word w =>
    if unaryWords.contains w then
      advance
      return .unary w (← g.unary)
    else if w == "await" then awaitExpression g
    else postfixExpression g
  | _ => postfixExpression g

/-! ## Binary operators -/

/-- Joins a closing angle bracket with what follows it to the longest operator. -/
def joinAngle : Parser Unit := do
  if ← atSign ">" then
    recut
      (fun s =>
        match [">>>=", ">>>", ">>=", ">>", ">="].find? (fun p => p.toList.isPrefixOf s) with
        | some p => Lexer.punctuation p (s.drop p.length)
        | none => Lexer.punctuation ">" (s.drop 1))
      ['>']

/-- The operator at the current token, if it is binary. -/
def operatorAt : Parser (Option String) := do
  match ← kind with
  | .punct p => return if (binaryLevel? p).isSome then some p else none
  | .word "in" => return if (← context).allowIn then some "in" else none
  | .word "instanceof" => return some "instanceof"
  | _ => return none

/-- Whether an operand of `**` is an operator in front of something, without parentheses. -/
def isBareUnary : Expr → Bool
  | .unary _ _ => true
  | .awaitExpr _ => true
  | _ => false

/-- Whether `??` may not stand next to the expression without parentheses, or the other way
round. -/
def mixes (op : String) : Expr → Bool
  | .binary inner _ _ =>
    (op == "??" && (inner == "||" || inner == "&&")) ||
      ((op == "||" || op == "&&") && inner == "??")
  | _ => false

/-- One binary operator above a level, or one type operator, behind an operand. -/
def binaryStep (level : Level) (offset : Nat) (left : Expr) : Parser (Option Expr) := do
  joinAngle
  let t ← token
  if (← typed) && t.kind.isOneOf ["as", "satisfies"] && !t.afterBreak then
    if level < Level.comparison then
      advance
      discard <| g.typeExpr
      return some left
    else return none
  else
    match ← operatorAt with
    | none => return none
    | some op =>
      let own := (binaryLevel? op).getD 0
      if if groupsRight op then level ≤ own else level < own then
        if op == "**" && isBareUnary left then note .unaryPower offset
        advance
        let right ← g.binary (if groupsRight op then own - 1 else own)
        if mixes op left || mixes op right then note .mixedCoalescing offset
        return some (.binary op left right)
      else return none

/-- A private name, which is only an operand of `in`. -/
def privateOperand : Parser Expr := do
  match ← kind with
  | .privateName n =>
    advance
    if ← atWord "in" then return .privateName n else failExpected "in"
  | _ => unexpected

/-- Operands joined by operators above a level. -/
def binaryBody (level : Level) : Parser Expr := do
  let offset ← start
  let left ←
    if (← kind).isPrivate && (← context).allowIn then privateOperand else g.unary
  grow (binaryStep g level offset) left

/-! ## Marks of calls and functions -/

/-- Marks the call that an expression begins with as free of side effects. -/
def markPure : Expr → Expr
  | .call f args o _ => .call f args o true
  | .new f args _ => .new f args true
  | .binary op l r => .binary op (markPure l) r
  | .conditional t y n => .conditional (markPure t) y n
  | .paren e => .paren (markPure e)
  | e => e

/-- Marks a function as free of side effects. -/
def markEffectless : Expr → Expr
  | .function name a i params body => .effectless (.function name a i params body)
  | .arrow a params body => .effectless (.arrow a params body)
  | .arrowTo a params body => .effectless (.arrowTo a params body)
  | e => e

/-! ## Assignments -/

/-- Whether `yield` is an operator here. -/
def atYield : Parser Bool := do
  if ← atWord "yield" then
    if (← context).allowYield then return true
    else
      peekNext fun t => !t.afterBreak &&
        ((t.kind.isWord && !t.kind.isOneOf ["in", "instanceof"]) || t.kind.isString ||
          t.kind.isNumber)
  else return false

/-- A `yield` with what it hands out. -/
def yieldExpression : Parser Expr := do
  if !(← context).allowYield then note .yieldOutside (← start)
  advance
  let handedOut : Parser Expr := within (fun c => { c with allowYield := true }) g.assignment
  if (← token).afterBreak then return .yieldExpr false none
  else if ← eat "*" then return .yieldExpr true (some (← handedOut))
  else if (← atSigns [")", "]", "\x7d", ",", ";", ":"]) || (← atEnd) || (← atWord "in") then
    return .yieldExpr false none
  else return .yieldExpr false (some (← handedOut))

/-- What follows the operands of an assignment or a conditional. -/
def assignmentRest (again : Parser Expr) (offset : Nat) (left : Expr) : Parser Expr := do
  match ← kind with
  | .punct "=>" =>
    match left with
    | .name n =>
      expectArrow
      arrowBody g again false [.name n]
    | _ => return left
  | .punct "?" =>
    advance
    let yes ← within (fun c => { c with allowIn := true }) g.assignmentBeforeColon
    expect ":"
    return .conditional left yes (← again)
  | .punct p =>
    if assignOperators.contains p then
      let target ← if p == "=" then asTarget left offset else asSimpleTarget left offset
      advance
      return .assign p target (← again)
    else return left
  | _ => return left

/-- An expression without commas and without marks. -/
def unmarkedAssignment (beforeColon : Bool) : Parser Expr := do
  let again := if beforeColon then g.assignmentBeforeColon else g.assignment
  if ← atYield then yieldExpression g
  else
    match ← arrowFunction? g beforeColon again with
    | some f => return f
    | none =>
      match ← asyncArrow? g again with
      | some f => return f
      | none =>
        let offset ← start
        let left ← binaryBody g Level.comma
        assignmentRest g again offset left

/-- An expression without commas. -/
def assignmentBody (beforeColon : Bool) : Parser Expr := do
  let t ← token
  let e ← unmarkedAssignment g beforeColon
  let e := if t.effectless then markEffectless e else e
  return if t.pure then markPure e else e

end LivePreview.Script.Parser
