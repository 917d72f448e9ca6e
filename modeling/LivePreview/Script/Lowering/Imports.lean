import LivePreview.Script.Lowering.State
import LivePreview.Script.Names
/-!
# Imports and exports of values

An import whose names are never used as values is an import of types and disappears, and so do the
types in lists of exports. An import without names stays for its effects. A module of which nothing
is left to import or export says so by an empty export.
-/

namespace LivePreview.Script.Lowering

/-- What the settling of imports depends on. -/
structure Settling where
  /-- The names used as values. -/
  used : List String
  /-- The names declared by the module's own values. -/
  declared : List String
  /-- The names that are types and nothing else. -/
  types : List String

/-- The names that the types of a module declare. -/
def Settling.typeNames : List Stmt → List String
  | [] => []
  | s :: r =>
    match s.bare with
    | .erased _ names => names ++ typeNames r
    | _ => typeNames r

/-- What is known about the names of a module, of which some are used by markup. -/
def Settling.ofModule (markupNames : List String) (items : List Stmt) : Settling :=
  let declared := localsOf items
  let imported := items.flatMap Stmt.imported
  { used := freeInStmts items ++ markupNames
    declared
    types := withoutNames (declared ++ imported) (Settling.typeNames items) }

/-- Whether an import binds a value that is used. -/
def Settling.keeps (s : Settling) (b : ImportBinding) : Bool :=
  let n := b.localName
  let typeOnly :=
    match b with
    | .named a => a.typeOnly
    | _ => false
  !typeOnly && s.used.contains n && !s.declared.contains n

/-- What an item of a module becomes; the flag tells whether it was an import or an export. -/
def Settling.item (s : Settling) (x : Stmt) : Option Stmt × Bool :=
  match x with
  | .importDecl phase (some []) source attributes =>
    (some (.importDecl phase none source attributes), true)
  | .importDecl phase (some bindings) source attributes =>
    match bindings.filter s.keeps with
    | [] => (none, true)
    | kept => (some (.importDecl phase (some kept) source attributes), true)
  | .importDecl _ none _ _ => (some x, true)
  | .importAlias exported name target =>
    let renamed : Stmt := .declaration .var [.initialized (.name name) target]
    if exported then (some (.exportDecl renamed), true) else (some renamed, false)
  | .exportNames [] _ _ => (some x, true)
  | .exportNames names source attributes =>
    let kept := names.filter fun a => !a.typeOnly && (source.isSome || !s.types.contains a.inner)
    (if kept.isEmpty then none else some (.exportNames kept source attributes), true)
  | .exportAll .. => (some x, true)
  | .exportDecl _ => (some x, true)
  | .exportDefault (.expression (.name n)) => (if s.types.contains n then none else some x, true)
  | .exportDefault _ => (some x, true)
  | .erased isModuleItem _ => (none, isModuleItem)
  | _ => (some x, false)

/-- What an item becomes, with the comments in front of it. -/
def Settling.commentedItem (s : Settling) (x : Stmt) : Option Stmt × Bool :=
  match x with
  | .commented cs inner =>
    let (kept, isModuleItem) := s.item inner
    (kept.map (.commented cs), isModuleItem)
  | x => s.item x

/-- The names for members of namespaces that a module neither uses nor exports. -/
def unusedAliases (items : List Stmt) : List String :=
  let used := freeInStmts items
  items.filterMap fun x =>
    match x.bare with
    | .importAlias false name _ => if used.contains name then none else some name
    | _ => none

/-- Whether an item gives one of the names to a member of a namespace. -/
def isAliasOf (names : List String) (x : Stmt) : Bool :=
  match x.bare with
  | .importAlias false name _ => names.contains name
  | _ => false

/-- The items of a module without the names that are unused, of which there are at most `fuel` in a
chain: a name may only be used by another one. -/
def withoutUnusedAliases : Nat → List Stmt → List Stmt
  | 0, items => items
  | fuel + 1, items =>
    match unusedAliases items with
    | [] => items
    | names => withoutUnusedAliases fuel (items.filter fun x => !isAliasOf names x)

/-- The items of a module without those that are only about types; some names are used by
markup. -/
def settle (markupNames : List String) (items : List Stmt) : List Stmt :=
  let items := withoutUnusedAliases items.length items
  let s := Settling.ofModule markupNames items
  let found := items.map s.commentedItem
  let kept := found.filterMap (·.1)
  let deleted := found.any fun f => f.2 && f.1.isNone
  let remaining := found.any fun f => f.2 && f.1.isSome
  if deleted && !remaining then kept ++ [.exportNames [] none none] else kept

/-- The import of the names that markup needs from a source. -/
def runtimeImport (e : String × List (String × String)) : Stmt :=
  .importDecl none (some (e.2.map fun n => .named ⟨n.1, false, n.2, false, false, []⟩))
    ⟨e.1, false⟩ none

def isImport (x : Stmt) : Bool :=
  match x.bare with
  | .importDecl .. => true
  | _ => false

/-- Whether an item stays at the head of a module. -/
def isHead (x : Stmt) : Bool :=
  match x.bare with
  | .directive _ => true
  | .launchLine _ => true
  | _ => false

/-- Inserts items behind the head of a module and the imports that follow it. -/
def insertImports (added items : List Stmt) : List Stmt :=
  let rest := items.dropWhile isHead
  items.takeWhile isHead ++ rest.takeWhile isImport ++ added ++ rest.dropWhile isImport

end LivePreview.Script.Lowering
