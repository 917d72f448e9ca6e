import LivePreview.Script.Lexer
/-!
# The parser's state and its first steps

The parser holds one token and the source behind it. A step either goes on or stops with the
diagnostic that is shown: the first error of the lexer if there is one, else the first error after
which parsing went on, else the error that stopped it.

Recursion runs through a `Grammar`, a record of the parsers of the recursive nonterminals. A grammar
of depth `n + 1` is built from one of depth `n`, so that every definition here is total; loops are
bounded by the length of the source.
-/

namespace LivePreview.Script

/-- What the surroundings allow. -/
structure Context where
  /-- `in` is an operator. -/
  allowIn : Bool
  /-- `await` is an operator. -/
  allowAwait : Bool
  /-- `yield` is an operator. -/
  allowYield : Bool
  /-- A `return` may stand here. -/
  allowReturn : Bool
  /-- Only declared, without values. -/
  ambient : Bool
  /-- Conditional types may not stand here. -/
  noConditionalType : Bool
  /-- In a decorator, `[` begins a new member. -/
  decorator : Bool

/-- What is wrong with an expression as the target of an assignment: what is noted, and what stops
the parser. -/
structure TargetFaults where
  notes : List Diagnostic
  stop : Option Diagnostic
  /-- The offsets of the defaults in objects that are no errors in a target. -/
  defaults : List Nat

/-- A parser between two tokens. -/
structure ParserState where
  token : Token
  /-- The source behind the token. -/
  rest : List Char
  /-- Where the token before ended. -/
  previousStop : Nat
  /-- The length of the source. -/
  size : Nat
  context : Context
  lexError : Option Diagnostic
  error : Option Diagnostic
  /-- Defaults in objects that may still turn out to be patterns, by their offsets. -/
  pendingDefaults : List Nat
  /-- What is wrong with arrays, objects and parentheses as targets, by their offsets. -/
  targetFaults : List (Nat × TargetFaults)
  /-- Where an arrow function was tried in vain. -/
  noArrowAt : List Nat
  /-- The names read so far, of values and of types, last ones first. -/
  names : List String
  /-- The bodies of the comments that may choose how markup is lowered, last one first. -/
  pragmas : List (List Char)
  /-- The offsets of the exported variables of the namespace around that are no constants. -/
  looseExports : List Nat
  /-- Types and markup are read. -/
  typed : Bool

/-- A parser of `α`. -/
abbrev Parser (α : Type) := StateT ParserState (Except Diagnostic) α

/-- What the surroundings of a type ask about it. -/
inductive TypeForm where
  | other
  | array
  | tuple
  /-- A type with a question mark behind it. -/
  | optional
deriving DecidableEq

/-- The recursive nonterminals. -/
structure Grammar where
  /-- An expression without commas. -/
  assignment : Parser Expr
  /-- An assignment after the test of a conditional: an arrow function with a return type must be
  followed by a colon there. -/
  assignmentBeforeColon : Parser Expr
  /-- The operand of an operator in front. -/
  unary : Parser Expr
  /-- Members and calls. -/
  leftHandSide : Parser Expr
  /-- An operand of binary operators that bind tighter than a level. -/
  binary : Nat → Parser Expr
  /-- A statement; the flag tells that it is the whole body of another one. -/
  statement : Bool → Parser Stmt
  /-- A name or a destructuring pattern. -/
  bindingTarget : Parser Expr
  typeExpr : Parser TypeForm
  /-- A type with the operators in front of it. -/
  typeOperator : Parser TypeForm
  /-- An element or a fragment, at its `<`; the flag tells that it stands inside another one. -/
  markup : Bool → Parser Markup

namespace Parser

/-! ## Errors -/

/-- Stops with the first error. -/
def fail {α : Type} (cause : SyntaxError) (offset : Nat) : Parser α := fun s =>
  .error ((s.lexError <|> s.error).getD ⟨cause, offset⟩)

/-- Notes an error and goes on. -/
def note (cause : SyntaxError) (offset : Nat) : Parser Unit :=
  modify fun s => { s with error := s.error <|> some ⟨cause, offset⟩ }

def token : Parser Token := do return (← get).token

def kind : Parser TokenKind := do return (← get).token.kind

def start : Parser Nat := do return (← get).token.start

/-- The lines that mark where two versions of a file differ start with one of these signs. -/
def diffMarkers : List (List Char) :=
  ['<', '=', '>', '|'].map (List.replicate 7)

/-- Whether a line that starts at the current token marks a difference. -/
def atDiffMarker : Parser Bool := do
  let s ← get
  match s.token.kind with
  | .punct p => return s.token.afterBreak && diffMarkers.any (·.isPrefixOf (p.toList ++ s.rest))
  | _ => return false

/-- Stops at the current token. -/
def unexpected {α : Type} : Parser α := do
  fail (if ← atDiffMarker then .diffMarker else .unexpectedToken) (← start)

/-! ## Moving on -/

/-- A token cut off the source. -/
structure Cut where
  token : Token
  rest : List Char
  error : Option Diagnostic
  pragmas : List (List Char)

/-- The gap and the token behind it, both cut off the source with `cut`. -/
def lexWith (cut : List Char → Lexeme) (previous : Option TokenKind) (offset : Nat)
    (s : List Char) : Cut :=
  let (g, s) := Lexer.gap previous s
  let at_ := offset + g.length
  let l := cut s
  let unclosed := g.unterminated.map fun k => (⟨.unterminatedComment, offset + k⟩ : Diagnostic)
  { token :=
      { kind := l.kind, start := at_, stop := at_ + l.length, afterBreak := g.afterBreak
        escaped := l.escaped, comments := g.comments.reverse, pure := g.pure
        effectless := g.effectless }
    rest := l.rest
    error := unclosed <|> l.error.map fun e => ⟨e.1, at_ + e.2⟩
    pragmas := g.pragmas }

/-- Replaces the current token by the one behind it, cut off with `cut`. -/
def advanceWith (cut : List Char → Lexeme) : Parser Unit :=
  modify fun s =>
    let c := lexWith cut (some s.token.kind) s.token.stop s.rest
    { s with
      token := c.token
      rest := c.rest
      previousStop := s.token.stop
      pragmas := c.pragmas ++ s.pragmas
      lexError := s.lexError <|> c.error }

/-- Goes behind a name. -/
def advanceName : Parser Unit := advanceWith Lexer.lexeme

/-- Goes to the next token. A word that is read for its meaning may hold no escapes. -/
def advance : Parser Unit := do
  let t ← token
  match t.kind with
  | .word w => if t.escaped && isKeyword w then note .escapedKeyword t.start
  | _ => pure ()
  advanceName

/-- Goes to what follows inside an element, where text is a token and no gap is skipped. -/
def advanceMarkup : Parser Unit :=
  modify fun s =>
    let l := Lexer.markupChild s.rest
    { s with
      token := ⟨l.kind, s.token.stop, s.token.stop + l.length, false, l.escaped, [], false, false⟩
      rest := l.rest
      previousStop := s.token.stop
      lexError := s.lexError <|> l.error.map fun e => ⟨e.1, s.token.stop + e.2⟩ }

/-- Reads the current token again, from its own start, with `cut`. -/
def recut (cut : List Char → Lexeme) (text : List Char) : Parser Unit :=
  modify fun s =>
    let l := cut (text ++ s.rest)
    { s with
      token := { s.token with kind := l.kind, stop := s.token.start + l.length }
      rest := l.rest
      lexError := s.lexError <|> l.error.map fun e => ⟨e.1, s.token.start + e.2⟩ }

/-- Runs a parser and takes everything back. -/
def lookahead {α : Type} (p : Parser α) : Parser (Option α) := fun s =>
  match p s with
  | .ok (a, _) => .ok (some a, s)
  | .error _ => .ok (none, s)

/-- Runs a parser, and takes everything back if it stops. -/
def attempt {α : Type} (p : Parser α) : Parser (Option α) := fun s =>
  match p s with
  | .ok (a, s') => .ok (some a, s')
  | .error _ => .ok (none, s)

/-- Runs a test ahead without moving; a test that stops has failed. -/
def peek (p : Parser Bool) : Parser Bool := do return (← lookahead p).getD false

/-- Whether what follows the current token passes the test. -/
def peekNext (p : Token → Bool) : Parser Bool := peek do
  advance
  return p (← token)

/-! ## Tokens -/

def atSign (p : String) : Parser Bool := do
  match ← kind with
  | .punct q => return p == q
  | _ => return false

/-- Whether the current token is one of the given signs. -/
def atSigns (ps : List String) : Parser Bool := do return (← kind).isSign ps

/-- Whether the current token is the given word. -/
def atWord (w : String) : Parser Bool := do
  match ← kind with
  | .word v => return v == w
  | _ => return false

/-- Whether the current token is one of the given words. -/
def atWords (ws : List String) : Parser Bool := do return (← kind).isOneOf ws

def atEnd : Parser Bool := do return (← kind) == .eof

/-- Skips the sign if it is there. -/
def eat (p : String) : Parser Bool := do
  if ← atSign p then
    advance
    return true
  else return false

/-- Skips the word if it is there. -/
def eatWord (w : String) : Parser Bool := do
  if ← atWord w then
    advance
    return true
  else return false

/-- Stops because something else is wanted at the current token. -/
def failExpected {α : Type} (wanted : String) : Parser α := do
  fail (.expected wanted (← kind).text) (← start)

/-- Requires the sign, and goes on behind it. -/
def expect (p : String) : Parser Unit := do
  unless ← eat p do failExpected p

/-- Requires the word, and goes on behind it. -/
def expectWord (w : String) : Parser Unit := do
  unless ← eatWord w do failExpected w

/-- Whether a statement may end here without a semicolon. -/
def mayEndStatement : Parser Bool := do
  let t ← token
  return t.kind == .punct ";" || t.kind == .punct "\x7d" || t.kind == .eof || t.afterBreak

/-- The end of a statement: a semicolon, or a place where it may be missing. -/
def endStatement : Parser Unit := do
  if ← mayEndStatement then
    discard <| eat ";"
  else
    fail .missingSemicolon (← get).previousStop

/-- Runs a parser in other surroundings. -/
def within {α : Type} (f : Context → Context) (p : Parser α) : Parser α := do
  let outer := (← get).context
  modify fun s => { s with context := f outer }
  let a ← p
  modify fun s => { s with context := outer }
  return a

def context : Parser Context := do return (← get).context

/-- Whether types and markup are read. -/
def typed : Parser Bool := do return (← get).typed

/-- The comments in front of the current token; they are no one else's then. -/
def takeComments : Parser (List Comment) :=
  modifyGet fun s => (s.token.comments, { s with token := { s.token with comments := [] } })

/-! ## Loops -/

/-- Collects results until a step gives none; at most `fuel` of them, last one first. -/
def manyFrom {α : Type} (step : Parser (Option α)) : Nat → List α → Parser (List α)
  | 0, acc => return acc
  | fuel + 1, acc => do
    match ← step with
    | some a => manyFrom step fuel (a :: acc)
    | none => return acc

/-- Collects results until a step gives none. -/
def many {α : Type} (step : Parser (Option α)) : Parser (List α) := do
  return (← manyFrom step ((← get).size + 2) []).reverse

/-- Changes a value until a step gives none; at most `fuel` times. -/
def growFrom {α : Type} (step : α → Parser (Option α)) : Nat → α → Parser α
  | 0, a => return a
  | fuel + 1, a => do
    match ← step a with
    | some b => growFrom step fuel b
    | none => return a

/-- Changes a value until a step gives none. -/
def grow {α : Type} (step : α → Parser (Option α)) (a : α) : Parser α := do
  growFrom step ((← get).size + 2) a

/-- Whether a list ends at the current token: at its closing sign, or because nothing follows. -/
def endsList (closing : String) : Parser Bool := do
  return (← atSign closing) || (← atEnd) || (← kind) == .bad

/-- The items of a list up to its closing sign, with a separator between each two and perhaps after
the last one; whether there is one after the last one is told. The closing sign is left. -/
def listFrom {α : Type} (closing separator : String) (item : Parser α) :
    Nat → List α → Parser (List α × Bool)
  | 0, acc => return (acc, false)
  | fuel + 1, acc => do
    let acc := (← item) :: acc
    if ← endsList closing then return (acc, false)
    else if ← eat separator then
      if ← atSign closing then return (acc, true) else listFrom closing separator item fuel acc
    else fail (.expectedOneOf separator closing (← kind).text) (← start)

/-- The items of a list up to its closing sign, and whether a separator stands in front of that. -/
def listAndTrail {α : Type} (closing separator : String) (item : Parser α) :
    Parser (List α × Bool) := do
  if ← endsList closing then return ([], false)
  let (items, trailing) ← listFrom closing separator item ((← get).size + 2) []
  return (items.reverse, trailing)

/-- The items of a list up to its closing sign. -/
def listUntil {α : Type} (closing separator : String) (item : Parser α) : Parser (List α) := do
  return (← listAndTrail closing separator item).1

/-- The items of a list with its closing sign. -/
def listTo {α : Type} (closing separator : String) (item : Parser α) : Parser (List α) := do
  let items ← listUntil closing separator item
  expect closing
  return items

/-- The items of a list, of which one that leaves nothing for others may only stand last; an item
tells whether it is such a rest, and `rest` is the offset of one before. -/
def restListFrom {α : Type} (closing : String) (notLast : SyntaxError) (item : Parser (α × Bool)) :
    Nat → Option Nat → List α → Parser (List α)
  | 0, _, acc => return acc
  | fuel + 1, rest, acc => do
    match rest with
    | some offset => note notLast offset
    | none => pure ()
    let offset ← start
    let (a, isRest) ← item
    let acc := a :: acc
    let rest := if isRest then some offset else rest
    if ← endsList closing then return acc
    else if ← atSign "," then
      let comma ← start
      advance
      if ← atSign closing then
        if rest.isSome && !(← context).ambient then note .restTrailingComma comma
        return acc
      else restListFrom closing notLast item fuel rest acc
    else fail (.expectedOneOf "," closing (← kind).text) (← start)

/-- The items of a list with its closing sign; a rest may only stand last. -/
def restListTo {α : Type} (closing : String) (notLast : SyntaxError) (item : Parser (α × Bool)) :
    Parser (List α) := do
  let items ←
    if ← endsList closing then pure []
    else restListFrom closing notLast item ((← get).size + 2) none []
  expect closing
  return items.reverse

/-! ## Names -/

/-- Remembers a name that a variable or a type has. -/
def record (n : String) : Parser Unit := modify fun s => { s with names := n :: s.names }

/-- Any word, which may be reserved. -/
def anyWord : Parser String := do
  match ← kind with
  | .word w =>
    advanceName
    return w
  | _ => unexpected

/-- Goes behind a name of a variable, which must not be an operator here. -/
def variableName (w : String) : Parser String := do
  if w == "await" && (← context).allowAwait then note .awaitAsName (← start)
  if w == "yield" && (← context).allowYield then note .yieldAsName (← start)
  record w
  advanceName
  return w

/-- A name that is bound here. -/
def bindingName : Parser String := do
  match ← kind with
  | .word w => if isReserved w then fail (.reservedName w) (← start) else variableName w
  | _ => unexpected

/-- A name that is used here. -/
def referenceName : Parser String := do
  match ← kind with
  | .word w => if isReserved w then unexpected else variableName w
  | _ => unexpected

/-- A string literal. -/
def stringLiteral : Parser StringLiteral := do
  match ← kind with
  | .string v _ =>
    advance
    return ⟨v, false⟩
  | .brokenString text _ =>
    advance
    return ⟨text, true⟩
  | _ => unexpected

end Parser

end LivePreview.Script
