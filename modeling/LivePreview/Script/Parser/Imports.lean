import LivePreview.Script.Parser.Variables
/-!
# Imports and lists of names

Names in lists may be strings and reserved words; which of them may be bound here is checked once an
entry has been read.
-/

namespace LivePreview.Script.Parser

variable (g : Grammar)

/-! ## Lists of names -/

/-- A name in a list of imports or exports, in its place. -/
structure ListedName where
  name : String
  isQuoted : Bool
  offset : Nat

/-- An entry of a list: its name, and the name behind `as`, which is the same one if there is no
other. -/
structure ListedEntry where
  first : ListedName
  second : ListedName
  /-- Where it starts if it is marked as a type. -/
  typeAt : Option Nat

/-- A name in a list. -/
def listedName : Parser ListedName := do
  let t ← token
  match t.kind with
  | .string v _ =>
    advance
    return ⟨v, true, t.start⟩
  | .brokenString text _ =>
    note .exportedHalf t.start
    advance
    return ⟨text, true, t.start⟩
  | _ => return ⟨← anyWord, false, t.start⟩

/-- Whether the current word `type` marks an entry as a type and is not its name. -/
def atTypeMark : Parser Bool := do
  if (← typed) && (← atWord "type") then
    peek do
      advanceName
      if ← atWord "as" then
        advanceName
        if ← eatWord "as" then return (← kind).isWord || (← kind).isString
        else return !((← kind).isWord || (← kind).isString)
      else return (← kind).isWord || (← kind).isString
  else return false

/-- An entry of a list. -/
def listedEntry : Parser ListedEntry := do
  let offset ← start
  let isType ← atTypeMark
  if isType then advance
  let first ← listedName
  let second ← if ← eatWord "as" then listedName else pure first
  return ⟨first, second, if isType then some offset else none⟩

/-- An entry of a list of imports; `ofTypes` tells that all of them are types. -/
def importEntry (ofTypes : Bool) : Parser ImportBinding := do
  let e ← listedEntry
  match e.typeAt with
  | some offset => if ofTypes then note .typeInTypeImport offset
  | none => pure ()
  if e.second.isQuoted then note .identifierExpected e.second.offset
  else if isReserved e.second.name then note (.reservedName e.second.name) e.second.offset
  record e.second.name
  return .named
    ⟨e.first.name, e.first.isQuoted, e.second.name, e.second.isQuoted, e.typeAt.isSome, []⟩

/-! ## Attributes -/

/-- An entry of the attributes of an import, and its place. -/
def importAttribute : Parser (ImportAttribute × Nat) := do
  let key ← listedName
  expect ":"
  return (⟨key.name, key.isQuoted, ← stringLiteral⟩, key.offset)

/-- Notes the keys that come again, at their first places. -/
def checkKeys : List (ImportAttribute × Nat) → Parser Unit
  | [] => return
  | (a, offset) :: more => do
    if more.any fun b => b.1.key == a.key then note (.repeatedAttribute a.key) offset
    checkKeys more

/-- The attributes behind the source of an import. -/
def importAttributes : Parser (Option ImportAttributes) := do
  let keyword ←
    if ← atWord "with" then pure (some "with")
    else if (← atWord "assert") && !(← token).afterBreak then pure (some "assert")
    else pure none
  match keyword with
  | none => return none
  | some keyword =>
    advance
    expect "\x7b"
    let entries ← listTo "\x7d" "," importAttribute
    checkKeys entries
    return some ⟨keyword, entries.map (·.1)⟩

/-! ## Imports -/

/-- The bindings of an import behind its default one. -/
def moreBindings (ofTypes : Bool) : Parser (List ImportBinding) := do
  if ← eat "*" then
    expectWord "as"
    return [.space (← bindingName)]
  else if ← eat "\x7b" then listTo "\x7d" "," (importEntry ofTypes)
  else unexpected

/-- Whether the word `type` marks an import of types and is not its default binding. -/
def atTypeImport : Parser Bool := do
  if (← typed) && (← atWord "type") then
    peek do
      advanceName
      if ← atSigns ["\x7b", "*"] then return true
      else if ← eatWord "from" then return (← atWord "from") || (← atSign "=")
      else return (← kind).isWord
  else return false

/-- The word that tells when the source of an import is run, if there is one and it is not the
default binding. -/
def importPhase : Parser (Option String) := do
  let isSource ←
    if ← atWord "source" then
      peek do
        advanceName
        if ← eatWord "from" then atWord "from" else return (← kind).isName
    else pure false
  let isDeferred ←
    if ← atWord "defer" then peekNext fun t => t.kind == .punct "*" else pure false
  return if isSource then some "source" else if isDeferred then some "defer" else none

/-- The source of an import with bindings, and its end. -/
def importSource (ofTypes : Bool) (phase : Option String) (bindings : List ImportBinding) :
    Parser Stmt := do
  expectWord "from"
  let source ← stringLiteral
  let attributes ← importAttributes
  endStatement
  return if ofTypes then .erased true (bindings.map ImportBinding.localName)
    else .importDecl phase (some bindings) source attributes

/-- What stands behind the equals sign in an import under a name: the source of a module, or a
member of a namespace. -/
def importEquals (exported ofTypes : Bool) (name : String) : Parser Stmt := do
  expect "="
  if (← atWord "require") && (← peekNext fun t => t.kind == .punct "(") then
    advance
    expect "("
    let source ← stringLiteral
    expect ")"
    endStatement
    return if ofTypes then .erased true [name]
      else .declaration .constant
        [.initialized (.name name) (.call (.name "require") [source.expr] false false)]
  else
    let first ← anyWord
    record first
    let target ← grow
      (fun e => do if ← eat "." then return some (.member e (← anyWord) false) else return none)
      (Expr.name first)
    endStatement
    return if ofTypes then .erased true [name] else .importAlias exported name target

/-- An import at its word. -/
def importDeclaration (exported : Bool) : Parser Stmt := do
  advance
  let ofTypes ← atTypeImport
  if ofTypes then advance
  let phase ← if ofTypes then pure none else importPhase
  if phase.isSome then advance
  if (← kind).isString && !ofTypes then
    let source ← stringLiteral
    let attributes ← importAttributes
    endStatement
    return .importDecl none none source attributes
  else if (← kind).isName then
    let name ← bindingName
    if ← eat "," then
      importSource ofTypes phase (.whole name :: (← moreBindings ofTypes))
    else if !(← typed) || (← atWord "from") then importSource ofTypes phase [.whole name]
    else importEquals exported ofTypes name
  else if ← atSigns ["*", "\x7b"] then importSource ofTypes phase (← moreBindings ofTypes)
  else if ofTypes && (← kind).isString then unexpected
  else failExpected "from"

end LivePreview.Script.Parser
