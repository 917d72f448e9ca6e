import LivePreview.Script.Lowering.State
import LivePreview.Script.Names
/-!
# Namespaces as functions that fill objects

A namespace of a module becomes a variable and the call of a function that fills the object in it;
what the namespace exports becomes members of the object. Namespaces inside of others are members of
their objects. Elsewhere namespaces have no meaning.

A variable that the namespace exports must be a constant, since later changes of it would not reach
the object.
-/

namespace LivePreview.Script.Lowering

/-! ## What counts -/

mutual

/-- Whether a statement has no meaning at run time. -/
def isValueless : Stmt → Bool
  | .erased _ _ => true
  | .nothing => true
  | .namespaceDecl _ _ body => areValueless body
  | .exportDecl s => isValueless s
  | .commented _ s => isValueless s
  | _ => false

def areValueless : List Stmt → Bool
  | [] => true
  | s :: r => isValueless s && areValueless r

/-- The offsets of the variables that a statement's namespaces export and that are no constants. -/
def looseExports : Stmt → List Nat
  | .namespaceDecl _ loose body => loose ++ looseExportsOf body
  | .exportDecl s => looseExports s
  | .commented _ s => looseExports s
  | _ => []

def looseExportsOf : List Stmt → List Nat
  | [] => []
  | s :: r => looseExports s ++ looseExportsOf r

end

/-! ## Exported members -/

/-- Sets a member of a namespace's object to the variable of the same name. -/
def setMember (object n : String) : Expr := .assign "=" (.member (.name object) n false) (.name n)

/-- A variable whose initial value also becomes a member of a namespace's object. -/
def exportedVariable (object : String) : Expr → Expr
  | .initialized (.name n) value =>
    .initialized (.name n) (.assign "=" (.member (.name object) n false) value)
  | e => e

def isPlainVariable : Expr → Bool
  | .name _ => true
  | .initialized (.name _) _ => true
  | _ => false

/-- The statements for an exported declaration of a namespace. -/
def exportedFrom (object : String) (s : Stmt) : List Stmt :=
  match s with
  | .declaration kind ds =>
    if ds.all isPlainVariable then [.declaration kind (ds.map (exportedVariable object))]
    else
      match (boundOfAll ds).map (setMember object) with
      | [] => [s]
      | [e] => [s, .expression e]
      | es => [s, .expression (.sequence es)]
  | s => s :: s.declared.map fun n => .expression (setMember object n)

/-! ## Namespaces -/

/-- Puts comments in front of the first of a list of statements. -/
def commentFirst (cs : List Comment) : List Stmt → List Stmt
  | [] => []
  | s :: r => if cs.isEmpty then s :: r else .commented cs s :: r

/-- Puts comments in front of the last of a list of statements. -/
def commentLast (cs : List Comment) : List Stmt → List Stmt
  | [] => []
  | [s] => if cs.isEmpty then [s] else [.commented cs s]
  | s :: r => s :: commentLast cs r

/-- The statements that make a namespace's object: its variable, unless it is declared already, and
the call of a function that fills it. -/
def namespaceStatements (isExported isDeclared : Bool) (parent : Option String)
    (name object : String) (body : List Stmt) : List Stmt :=
  let opening : Stmt := .declaration .block [.name name]
  let fn : Expr := .paren (.function none false false [.name object] body)
  let argument : Expr :=
    match parent with
    | none => .binary "||" (.name name) (.assign "=" (.name name) (.object []))
    | some p =>
      .binary "||" (.name name)
        (.assign "=" (.name name)
          (.binary "||" (.member (.name p) name false)
            (.assign "=" (.member (.name p) name false) (.object []))))
  (if isDeclared then []
    else [if isExported && parent.isNone then .exportDecl opening else opening]) ++
    [.expression (.call fn [argument] false false)]

mutual

/-- Lowers the namespaces in a list of statements of a module, or of the namespace that fills
`object`; `declared` are the names declared before. -/
def namespaces (object : Option String) (declared : List String) : List Stmt → Lower (List Stmt)
  | [] => return []
  | s :: r => do
    let here ← namespaceItem object declared false [] s
    return here ++ (← namespaces object (s.declared ++ declared) r)

/-- The statements that an item becomes which has comments in front of it. -/
def namespaceItem (object : Option String) (declared : List String) (isExported : Bool)
    (cs : List Comment) : Stmt → Lower (List Stmt)
  | .commented more s => namespaceItem object declared isExported (cs ++ more) s
  | .exportDecl s =>
    match s with
    | .namespaceDecl name loose body =>
      namespaceItem object declared true cs (.namespaceDecl name loose body)
    | s =>
      match object with
      | some object => return commentFirst cs (exportedFrom object s)
      | none => return commentFirst cs [.exportDecl s]
  | .namespaceDecl name _ body => do
    if areValueless body then return []
    else
      let own ← fresh name
      let inner ← namespaces (some own) [] body
      let parent := if isExported then object else none
      return commentLast cs
        (namespaceStatements isExported (declared.contains name) parent name own inner)
  | .importAlias exported name target =>
    match object with
    | none => return commentFirst cs [.importAlias exported name target]
    | some object =>
      let s : Stmt := .declaration .var [.initialized (.name name) target]
      return commentFirst cs
        (s :: if exported then [.expression (setMember object name)] else [])
  | .exportNames names source attributes =>
    return if object.isSome then []
      else commentFirst cs [.exportNames names source attributes]
  | s => return commentFirst cs [s]

end

/-- Lowers the namespaces of a module, and reports the first variable that may not be exported. -/
def onNamespaces (items : Module) : Lower Module := do
  match (looseExportsOf items).min? with
  | some offset => report .looseNamespaceExport offset
  | none => pure ()
  namespaces none [] items

end LivePreview.Script.Lowering
