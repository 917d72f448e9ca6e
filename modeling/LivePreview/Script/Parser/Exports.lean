import LivePreview.Script.Parser.Declarations
/-!
# Exports

Exported declarations, lists of exported names, and what a module exports by default. An export of
types alone becomes an `erased` module item.
-/

namespace LivePreview.Script.Parser

variable (g : Grammar)

/-! ## Lists of exported names -/

/-- An entry of a list of exports, and its name in this module; `ofTypes` tells that all of them are
types. -/
def exportEntry (ofTypes : Bool) : Parser (Alias × ListedName) := do
  let comments := (← token).comments
  let e ← listedEntry
  match e.typeAt with
  | some offset => if ofTypes then note .typeInTypeExport offset
  | none => pure ()
  return (⟨e.second.name, e.second.isQuoted, e.first.name, e.first.isQuoted, e.typeAt.isSome,
    comments⟩, e.first)

/-- Notes a name that nothing in this module can have. -/
def checkExported (n : ListedName) : Parser Unit := do
  if n.isQuoted then note .exportedString n.offset
  else if isReserved n.name then note .exportedReserved n.offset
  else record n.name

/-- A list of exported names, perhaps of another module. -/
def exportList (ofTypes : Bool) : Parser Stmt := do
  expect "\x7b"
  let entries ← listTo "\x7d" "," (exportEntry ofTypes)
  let source ← if ← eatWord "from" then pure (some (← stringLiteral)) else pure none
  let attributes ← if source.isSome then importAttributes else pure none
  if source.isNone then (entries.map (·.2)).forM checkExported
  endStatement
  return if ofTypes then .erased true []
    else .exportNames (entries.map (·.1)) source attributes

/-- All exports of another module, perhaps under one name. -/
def exportEverything (ofTypes : Bool) : Parser Stmt := do
  expect "*"
  let name ←
    if ← eatWord "as" then
      let n ← listedName
      pure (some (Alias.mk n.name n.isQuoted n.name n.isQuoted false []))
    else pure none
  expectWord "from"
  let source ← stringLiteral
  let attributes ← importAttributes
  endStatement
  return if ofTypes then .erased true [] else .exportAll name source attributes

/-! ## The default export -/

/-- A function as the default export; without a body it is erased. -/
def defaultFunction (isAsync : Bool) : Parser Stmt := do
  match ← functionDeclaration g .defaultExport isAsync false with
  | .erased _ names => return .erased true names
  | s => return .exportDefault s

/-- The default export behind its words, with the decorators in front of them. -/
def defaultExport (decorators : List Expr) : Parser Stmt := do
  let decorators := decorators ++ (← many (decorator g))
  if ← atWord "class" then return .exportDefault (.classDecl (← classFrom g decorators))
  else if (← typed) && (← atWord "abstract") && (← peekNext fun t => t.kind == .word "class") then
    advance
    return .exportDefault (.classDecl (← classFrom g decorators))
  else if ← atWord "function" then defaultFunction g false
  else if ← atAsyncFunction then
    advance
    defaultFunction g true
  else if (← typed) && (← atWord "interface") &&
      (← peekNext fun t => t.kind.isName && !t.afterBreak) then
    return .erased true (declaredTypes (← interfaceDeclaration g))
  else
    let e ← assignmentWithIn g
    endStatement
    return .exportDefault (.expression e)

/-! ## Exports -/

/-- Remembers where the first variable of an exported list stands that are no constants. -/
def recordLoose : Parser Unit := do
  if ← atWords ["var", "let"] then
    let first ← lookahead do
      advance
      start
    modify fun s => { s with looseExports := first.toList ++ s.looseExports }

/-- An exported declaration, with the decorators in front of the word `export`. -/
def exportedDeclaration (decorators : List Expr) (offset : Nat) : Parser Stmt := do
  let inner ← start
  let more ← many (decorator g)
  recordLoose
  let s ← declaration g (decorators ++ more) (if decorators.isEmpty then inner else offset)
  match s with
  | .erased _ names => return .erased true names
  | .importAlias _ name target => return .importAlias true name target
  | s => return .exportDecl s

/-- The value that a module exports as a whole, behind its sign. -/
def exportedValue : Parser Stmt := do
  let e ← assignmentWithIn g
  endStatement
  return .expression (.assign "=" (.member (.name "module") "exports" false) e)

/-- A name under which scripts see the module, which has no meaning in modules. -/
def exportedNamespace : Parser Stmt := do
  advance
  expectWord "namespace"
  let _ ← anyWord
  endStatement
  return .erased true []

/-- An export at its word, with the decorators in front of it. -/
def exportDeclaration (decorators : List Expr) (offset : Nat) : Parser Stmt := do
  advance
  let ofTypes ←
    if (← typed) && (← atWord "type") then peekNext fun t => t.kind.isSign ["\x7b", "*"]
    else pure false
  if ofTypes then advance
  if ← atSign "\x7b" then exportList ofTypes
  else if ← atSign "*" then exportEverything ofTypes
  else if ← eatWord "default" then defaultExport g decorators
  else if (← typed) && (← atWord "import") then importDeclaration true
  else if (← typed) && (← eat "=") then exportedValue g
  else if (← typed) && (← atWord "as") then exportedNamespace
  else exportedDeclaration g decorators offset

end LivePreview.Script.Parser
