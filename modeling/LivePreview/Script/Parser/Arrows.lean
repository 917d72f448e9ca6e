import LivePreview.Script.Parser.Calls
/-!
# Arrow functions

Whether a parenthesis begins the parameters of an arrow function is decided by looking at the next
few tokens. If they do not tell, the parameters are tried, up to the arrow.
-/

namespace LivePreview.Script.Parser

variable (g : Grammar)

/-! ## Looking ahead -/

/-- What the tokens ahead say about a parenthesis. -/
inductive ArrowGuess where
  | yes
  | no
  | perhaps
deriving DecidableEq

def ArrowGuess.ofBool (b : Bool) : ArrowGuess := if b then yes else no

/-- What the tokens behind a parenthesis say about it. -/
def guessParenthesis : Parser ArrowGuess := do
  if ← eat ")" then
    return .ofBool ((← atSigns ["=>", "\x7b"]) || ((← typed) && (← atSign ":")))
  else if ← atSigns ["[", "\x7b"] then return .perhaps
  else if ← eat "..." then return if (← kind).isWord then .yes else .perhaps
  else
    let k ← kind
    let modified ←
      if k.isOneOf modifierWords && k != .word "async" then
        peekNext fun t => t.kind.isName && t.kind != .word "as"
      else pure false
    if modified then return .yes
    else if !k.isName && k != .word "this" then return .no
    else
      advanceName
      if ← atSign ":" then return .ofBool (← typed)
      else if ← eat "?" then return .ofBool ((← typed) && (← atSigns [":", ",", "=", ")"]))
      else return if ← atSigns [",", "=", ")"] then .perhaps else .no

/-- What the tokens behind an angle bracket say about it: it may also begin an element. -/
def guessAngle : Parser ArrowGuess := do
  discard <| eatWord "const"
  if !(← kind).isName then return .no
  else
    advanceName
    if ← eatWord "extends" then return .ofBool (!(← atSigns ["=", ">", "/"]))
    else return .ofBool (← atSigns [",", "="])

/-- Whether a parenthesis, or the angle bracket of type parameters, begins an arrow function. -/
def guessArrow : Parser ArrowGuess := do
  let guess ← lookahead do
    if (← eatWord "async") && (← token).afterBreak then return ArrowGuess.no
    else if ← eat "(" then guessParenthesis
    else if (← typed) && (← eat "<") then guessAngle
    else return .no
  return guess.getD .no

/-! ## Heads and bodies -/

/-- The head of an arrow function. -/
structure ArrowHead where
  isAsync : Bool
  params : List Expr
  /-- Whether the type of its result is given. -/
  hasResult : Bool

/-- Requires an arrow on the same line. -/
def expectArrow : Parser Unit := do
  let t ← token
  if t.afterBreak then note .breakBeforeArrow t.start
  expect "=>"

/-- Type parameters, parameters, result type and arrow of an arrow function. -/
def arrowHead : Parser ArrowHead := do
  let isAsync ← eatWord "async"
  let head ← within (fun c => { c with allowAwait := c.allowAwait || isAsync }) do
    if ← typed then typeParameters g
    let (params, this) ← parameters g .arrow
    refuseThis .thisInArrow this
    let hasResult := (← typed) && (← atSign ":")
    returnType g
    return ⟨isAsync, params, hasResult⟩
  expectArrow
  return head

/-- The body of an arrow function; a body without braces is read with `result`. -/
def arrowBody (result : Parser Expr) (isAsync : Bool) (params : List Expr) : Parser Expr :=
  within
    (fun c =>
      { c with allowAwait := c.allowAwait || isAsync, allowYield := false, decorator := false }) do
    if ← atSign "\x7b" then return .arrow isAsync params (← functionBody g)
    else return .arrowTo isAsync params (← result)

/-- An arrow function with parameters in parentheses, if there is one here; `result` reads a body
without braces. In front of a colon, an arrow function with a result type must be followed by that
colon. -/
def arrowFunction? (beforeColon : Bool) (result : Parser Expr) : Parser (Option Expr) := do
  match ← guessArrow with
  | .no => return none
  | .yes =>
    let head ← arrowHead g
    return some (← arrowBody g g.assignment head.isAsync head.params)
  | .perhaps =>
    let before ← get
    let offset := before.token.start
    let giveUp : Parser (Option Expr) := do
      set { before with noArrowAt := offset :: before.noArrowAt }
      return none
    if before.noArrowAt.contains offset then return none
    else
      match ← attempt (arrowHead g) with
      | none => giveUp
      | some head =>
        let f ← arrowBody g result head.isAsync head.params
        if beforeColon && head.hasResult && !(← atSign ":") then giveUp else return some f

/-- An arrow function of the form `async x => …`, if there is one here. -/
def asyncArrow? (result : Parser Expr) : Parser (Option Expr) := do
  let ahead ←
    if ← atWord "async" then
      peek do
        advance
        if (← token).afterBreak || !(← kind).isName then return false
        else
          advanceName
          atSign "=>"
    else pure false
  if ahead then
    advance
    let n ← bindingName
    expectArrow
    return some (← arrowBody g result true [.name n])
  else return none

end LivePreview.Script.Parser
