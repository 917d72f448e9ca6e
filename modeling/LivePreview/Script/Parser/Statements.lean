import LivePreview.Script.Parser.Control
import LivePreview.Script.Parser.Exports
/-!
# Statements

Which statement or module item starts at a token. A word may open a statement or be a name; where
its meaning depends on what follows, the parser looks ahead.
-/

namespace LivePreview.Script.Parser

variable (g : Grammar)

/-! ## Marks of functions -/

/-- Marks the functions that a declaration gives names to as free of side effects: of constants only
the first one. -/
def markDeclared : Stmt → Stmt
  | .functionDecl f => .functionDecl (markEffectless f)
  | .declaration .constant (.initialized target value :: more) =>
    .declaration .constant (.initialized target (markEffectless value) :: more)
  | .expression e => .expression (markEffectless e)
  | s => s

/-- Marks the functions that a statement declares as free of side effects. -/
def markStatement : Stmt → Stmt
  | .exportDefault s => .exportDefault (markDeclared s)
  | .exportDecl s => .exportDecl (markDeclared s)
  | .expression e => .expression e
  | s => markDeclared s

/-! ## Statements that start like expressions -/

/-- An expression as a statement, or a statement with a label. -/
def expressionStatement : Parser Stmt := do
  let e ← expression g
  match e with
  | .name label =>
    if ← eat ":" then return .labeled label (← g.statement true)
    else
      endStatement
      return .expression e
  | _ =>
    endStatement
    return .expression e

/-- A list of variables that may not be the body of another statement. -/
def lexicalStatement (single : Bool) (s : Parser Stmt) : Parser Stmt := do
  let offset ← start
  let s ← s
  if single then note .singleLexical offset
  return s

/-- A statement at the word `let`. -/
def letStatement (single : Bool) : Parser Stmt := do
  match ← letForm single with
  | .declaration => lexicalStatement single (variableStatement g .block)
  | .expression => expressionStatement g
  | .name =>
    let e : Expr := .name (← referenceName)
    endStatement
    return .expression e

/-- A statement at the word `using`, or at `await` in front of it. -/
def usingStatement (single : Bool) : Parser Stmt :=
  lexicalStatement single do
    let s ← usingDeclaration g false
    endStatement
    return s

/-- A class as a statement, which may not be the body of another one. -/
def classStatement (single : Bool) (decorators : List Expr) : Parser Stmt := do
  let offset ← start
  let c ← classFrom g decorators
  if single then note .singleClass offset
  return .classDecl c

/-- What decorators stand in front of. -/
def decoratedStatement (single : Bool) : Parser Stmt := do
  let offset ← start
  let decorators ← many (decorator g)
  if ← atWord "export" then exportDeclaration g decorators offset
  else
    let ms ← modifiers false false
    allowOnly (if ← typed then ["abstract", "declare"] else []) misplacedHere ms
    if ← atWord "class" then
      let s ← classStatement g single decorators
      return if ms.has "declare" then eraseDeclared s else s
    else fail .misplacedDecorator offset

/-! ## Words that open statements -/

/-- A statement at a reserved word, if that opens one. -/
def reservedStatement (single : Bool) (w : String) : Parser (Option Stmt) := do
  if w == "if" then return some (← ifStatement g)
  else if w == "for" then return some (← forStatement g)
  else if w == "while" then return some (← whileStatement g)
  else if w == "do" then return some (← doStatement g)
  else if w == "return" then return some (← returnStatement g)
  else if w == "break" then
    advance
    return some (.breakTo (← jumpLabel))
  else if w == "continue" then
    advance
    return some (.continueTo (← jumpLabel))
  else if w == "throw" then return some (← throwStatement g)
  else if w == "try" then return some (← tryStatement g)
  else if w == "switch" then return some (← switchStatement g)
  else if w == "with" then return some (← withStatement g)
  else if w == "debugger" then
    advance
    endStatement
    return some .debugger
  else if w == "function" then return some (← functionStatement g single)
  else if w == "class" then return some (← classStatement g single [])
  else if w == "var" then return some (← variableStatement g .var)
  else if w == "const" then
    if (← typed) && (← peekNext fun t => t.kind == .word "enum") then
      return some (← declarationBody g [] [] 0)
    else return some (← lexicalStatement single (variableStatement g .constant))
  else if w == "import" then
    if ← peekNext fun t => t.kind.isSign ["(", "."] then return none
    else return some (← importDeclaration false)
  else if w == "export" then return some (← exportDeclaration g [] 0)
  else return none

/-- A statement at a word. -/
def wordStatement (single : Bool) (w : String) : Parser Stmt := do
  match ← reservedStatement g single w with
  | some s => return s
  | none =>
    if w == "let" && !(← token).escaped then letStatement g single
    else if (← atUsing false) || (← atAwaitUsing) then usingStatement g single
    else if ← atAsyncFunction then functionStatement g single
    else if ← atDeclaration then declaration g [] 0
    else expressionStatement g

/-- A statement, with the comments in front of it; `single` tells that it is the whole body of
another one. -/
def statementBody (single : Bool) : Parser Stmt := do
  let t ← token
  let s ←
    match t.kind with
    | .punct "\x7b" => pure (Stmt.block (← block g))
    | .punct ";" =>
      advance
      pure Stmt.empty
    | .punct "@" => decoratedStatement g single
    | .word w => wordStatement g single w
    | _ => expressionStatement g
  let s := if t.effectless then markStatement s else s
  return if t.comments.isEmpty then s else .commented t.comments s

end LivePreview.Script.Parser
