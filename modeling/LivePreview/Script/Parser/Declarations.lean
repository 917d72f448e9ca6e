import LivePreview.Script.Parser.Imports
/-!
# Declarations

Functions, classes, types, enumerations and namespaces, with the modifiers in front of them. A
declaration of types alone becomes an `erased` statement, which remembers the type names it
declared.
-/

namespace LivePreview.Script.Parser

variable (g : Grammar)

/-! ## Functions -/

/-- A function as a statement; without a body it is erased. A statement ends behind the body of a
function that is only declared. -/
def functionDeclaration (site : FunctionSite) (isAsync isDeclared : Bool) : Parser Stmt := do
  match ← function g site isAsync with
  | some f =>
    if isDeclared then endStatement
    return .functionDecl f
  | none =>
    endStatement
    return .erased false []

/-- A function at its word or at `async` as a statement, which may be the body of another one. -/
def functionStatement (single : Bool) : Parser Stmt := do
  let offset ← start
  let isAsync ← eatWord "async"
  let s ← functionDeclaration g .declaration isAsync false
  match s with
  | .functionDecl (.function _ isAsync isGenerator _ _) =>
    if single && isAsync then note .singleAsync offset
    if single && isGenerator then note .singleGenerator offset
    return s
  | s => return s

/-! ## Types -/

/-- Whether an expression is a name or a member of one. -/
def isQualifiedName : Expr → Bool
  | .name _ => true
  | .member e _ optional => !optional && isQualifiedName e
  | _ => false

def interfaceDeclaration : Parser Stmt := do
  advance
  let name ← bindingName
  typeParameters g
  let h ← heritage g
  typeMembers g
  (h.bases.getD []).forM fun base =>
    if isQualifiedName base.value then pure () else note .interfaceBase base.offset
  match h.implementsAt with
  | some offset => note .interfaceImplements offset
  | none => pure ()
  return .erased false [name]

def typeAlias : Parser Stmt := do
  advance
  let name ← bindingName
  typeParameters g
  expect "="
  discard <| g.typeExpr
  endStatement
  return .erased false [name]

/-! ## Enumerations -/

/-- The name of a member of an enumeration: a word or a string, perhaps in brackets. -/
def enumKey : Parser Expr := do
  let t ← token
  match t.kind with
  | .punct "[" =>
    let inner ← lookahead do
      advance
      start
    let offset := inner.getD t.stop
    match ← memberKey g with
    | .computed (.string s) => return .string s
    | .computed (.template [s] []) => return .string s
    | .computed (.number _) => fail .numericMember offset
    | _ => fail .computedMember offset
  | .template _ _ _ _ => fail .computedMember t.start
  | k =>
    if k.isNumber then fail .numericMember t.start
    else if k.isWord || k.isString then memberKey g
    else unexpected

/-- A member of an enumeration. -/
def enumMember : Parser Member := do
  let comments := (← token).comments
  let key ← enumKey g
  match key with
  | .name n => record n
  | .string n => record n
  | _ => pure ()
  let value ← if ← eat "=" then pure (some (← assignmentWithIn g)) else pure none
  let member : Member := .field false false [] key value
  return if comments.isEmpty then member else .commented comments member

/-- An enumeration at its word. -/
def enumDeclaration : Parser Stmt := do
  expectWord "enum"
  let name ← bindingName
  expect "\x7b"
  return .enumeration name (← listTo "\x7d" "," (enumMember g))

/-! ## Namespaces -/

/-- The statements of a namespace, in their braces, and the offsets of the variables that it exports
and that are no constants. -/
def namespaceBody : Parser (List Nat × List Stmt) := do
  let outer := (← get).looseExports
  modify fun s => { s with looseExports := [] }
  expect "\x7b"
  let (body, _) ← grow (bodyStep g endsStatements) ([], true)
  expect "\x7d"
  let loose := (← get).looseExports
  modify fun s => { s with looseExports := outer }
  return (loose.reverse, body.reverse)

/-- A namespace with the names in front of its own one. -/
def nestNamespaces (inner : Stmt) (outer : List String) : Stmt :=
  outer.foldr (fun n s => .namespaceDecl n [] [.exportDecl s]) inner

/-- The declaration of a module by its source, which has no meaning at run time. -/
def quotedModule : Parser Stmt := do
  discard <| stringLiteral
  if ← atSign "\x7b" then discard <| namespaceBody g else endStatement
  return .erased false []

/-- A namespace or a module at its word. -/
def namespaceDeclaration : Parser Stmt := do
  advance
  if (← kind).isString then quotedModule g
  else
    let first ← bindingName
    let more ← many do if ← eat "." then return some (← anyWord) else return none
    let (loose, body) ← namespaceBody g
    let names := first :: more
    return nestNamespaces (.namespaceDecl (names.getLastD first) loose body) names.dropLast

/-- What is declared for all modules. -/
def globalDeclaration : Parser Stmt := do
  advance
  if ← atSign "\x7b" then discard <| namespaceBody g else endStatement
  return .erased false []

/-! ## Declarations with modifiers -/

/-- Whether a declaration in a typed source follows, perhaps behind some of `fuel` modifiers. -/
def declarationFollows : Nat → Parser Bool
  | 0 => return false
  | fuel + 1 => do
    match ← kind with
    | .word w =>
      advanceName
      let t ← token
      if ["var", "let", "const", "function", "class", "enum"].contains w then return true
      else if ["interface", "type"].contains w then return t.kind.isName && !t.afterBreak
      else if ["module", "namespace"].contains w then
        return (t.kind.isName || t.kind.isString) && !t.afterBreak
      else if w == "global" then
        return t.kind.isName || t.kind == .punct "\x7b" || t.kind == .word "export"
      else if w == "import" then
        return t.kind.isName || t.kind.isString || t.kind.isSign ["*", "\x7b"]
      else if w == "static" then declarationFollows fuel
      else if w == "export" then
        discard <| eatWord "type"
        if (← atSigns ["=", "*", "\x7b", "@"]) || (← atWords ["default", "as"]) then return true
        else declarationFollows fuel
      else if ["abstract", "accessor", "async", "declare", "private", "protected", "public",
          "readonly"].contains w then
        if t.afterBreak then return false else declarationFollows fuel
      else return false
    | _ => return false

/-- The words that may open a declaration in a typed source and may also be names. -/
def declarationWords : List String :=
  ["interface", "type", "module", "namespace", "declare", "enum", "private", "protected", "public",
   "abstract", "accessor", "static", "readonly", "global"]

/-- Whether one of those words opens a declaration at the current token. -/
def atDeclaration : Parser Bool := do
  if (← typed) && (← atWords declarationWords) then
    let size := (← get).size
    peek (declarationFollows (size + 1))
  else return false

/-- The type names that a statement declares. -/
def declaredTypes : Stmt → List String
  | .erased _ names => names
  | _ => []

/-- What remains of a declaration behind the word `declare`. -/
def eraseDeclared : Stmt → Stmt
  | .importAlias exported name target => .importAlias exported name target
  | s => .erased false (declaredTypes s)

/-- A declaration of types, enumerations or namespaces in a typed source, at its word. -/
def typedDeclaration (w : String) : Parser (Option Stmt) := do
  if !(← typed) then return none
  else if w == "interface" then return some (← interfaceDeclaration g)
  else if w == "type" then return some (← typeAlias g)
  else if w == "enum" then return some (← enumDeclaration g)
  else if w == "namespace" || w == "module" then return some (← namespaceDeclaration g)
  else if w == "global" then return some (← globalDeclaration g)
  else if w == "import" then return some (← importDeclaration false)
  else return none

/-- A declaration behind its modifiers and decorators; the place of these is given. -/
def declarationBody (ms : Modifiers) (decorators : List Expr) (offset : Nat) : Parser Stmt := do
  if !(← typed) then allowOnly ["async"] misplacedHere ms
  if !decorators.isEmpty && !(← atWord "class") then note .misplacedDecorator offset
  let only (allowed : List String) : Parser Unit := allowOnly allowed misplacedHere ms
  match ← kind with
  | .word w =>
    if w == "class" then
      only ["abstract", "declare"]
      return .classDecl (← classFrom g decorators)
    else if w == "function" then
      only ["async", "declare"]
      functionDeclaration g .declaration (ms.has "async") (ms.has "declare")
    else
      only ["declare"]
      if w == "const" && (← typed) && (← peekNext fun t => t.kind == .word "enum") then
        advance
        enumDeclaration g
      else if w == "var" then variableStatement g .var
      else if w == "let" then variableStatement g .block
      else if w == "const" then variableStatement g .constant
      else
        match ← typedDeclaration g w with
        | some s => return s
        | none => unexpected
  | _ => unexpected

/-- A declaration from its modifiers on. -/
def declaration (decorators : List Expr) (offset : Nat) : Parser Stmt := do
  let ms ← declarationModifiers
  if ms.has "declare" then
    return eraseDeclared
      (← within (fun c => { c with ambient := true }) (declarationBody g ms decorators offset))
  else declarationBody g ms decorators offset

end LivePreview.Script.Parser
