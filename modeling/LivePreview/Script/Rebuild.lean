import LivePreview.Script.Names
/-!
# Rebuilding a tree

A `Rebuild` says what becomes of each expression, member and statement once its parts have been
rebuilt. The parts are visited in the order of the source, inner ones first, so a rebuild in a state
monad sees the tree in that order.

Pieces of markup are not expressions: only what stands in their braces is rebuilt, and the
expression that holds the outermost piece sees all of it.
-/

namespace LivePreview.Script

/-- What becomes of the parts of a tree. -/
structure Rebuild (m : Type → Type) where
  expr : Expr → m Expr
  member : Member → m Member
  stmt : Stmt → m Stmt
  /-- The statements that one becomes in the list that holds it, given the names declared before it
  there. The flag tells that the list is the module's own. -/
  item : Bool → List String → Stmt → m (List Stmt)
  /-- What is rebuilt where some names are bound. -/
  binding : (α : Type) → List String → m α → m α

namespace Rebuild

variable {m : Type → Type} [Monad m]

/-- The rebuild that leaves everything as it is. -/
def keep : Rebuild m := ⟨pure, pure, pure, fun _ _ s => pure [s], fun _ _ x => x⟩

variable (b : Rebuild m)

mutual

/-- Rebuilds an expression, inner parts first. -/
def onExpr : Expr → m Expr
  | .template chunks parts => do b.expr (.template chunks (← onExprs parts))
  | .tagged tag quasi => do
    let tag ← onExpr tag
    b.expr (.tagged tag (← onExpr quasi))
  | .array elements => do b.expr (.array (← onExprs elements))
  | .spread e => do b.expr (.spread (← onExpr e))
  | .object ms => do b.expr (.object (← onMembers ms))
  | .pattern ms => do b.expr (.pattern (← onMembers ms))
  | .initialized target value => do
    let target ← onExpr target
    b.expr (.initialized target (← onExpr value))
  | .function name isAsync isGenerator params body => do
    let inner := do
      let params ← onExprs params
      return Expr.function name isAsync isGenerator params (← onList false [] body)
    b.expr (← b.binding _ (name.toList ++ boundOfAll params ++ localsOf body) inner)
  | .arrow isAsync params body => do
    let inner := do
      let params ← onExprs params
      return Expr.arrow isAsync params (← onList false [] body)
    b.expr (← b.binding _ (boundOfAll params ++ localsOf body) inner)
  | .arrowTo isAsync params body => do
    let inner := do
      let params ← onExprs params
      return Expr.arrowTo isAsync params (← onExpr body)
    b.expr (← b.binding _ (boundOfAll params) inner)
  | .classOf name base decorators ms => do
    let decorators ← onExprs decorators
    let inner := do
      let base ←
        match base with
        | some e => pure (some (← onExpr e))
        | none => pure none
      return Expr.classOf name base decorators (← onMembers ms)
    b.expr (← b.binding _ name.toList inner)
  | .unary op e => do b.expr (.unary op (← onExpr e))
  | .update op isPrefix e => do b.expr (.update op isPrefix (← onExpr e))
  | .binary op left right => do
    let left ← onExpr left
    b.expr (.binary op left (← onExpr right))
  | .assign op target value => do
    let target ← onExpr target
    b.expr (.assign op target (← onExpr value))
  | .conditional test yes no => do
    let test ← onExpr test
    let yes ← onExpr yes
    b.expr (.conditional test yes (← onExpr no))
  | .sequence es => do b.expr (.sequence (← onExprs es))
  | .call callee args optional pure => do
    let callee ← onExpr callee
    b.expr (.call callee (← onExprs args) optional pure)
  | .new callee args pure => do
    let callee ← onExpr callee
    b.expr (.new callee (← onExprs args) pure)
  | .member object property optional => do b.expr (.member (← onExpr object) property optional)
  | .privateMember object property optional => do
    b.expr (.privateMember (← onExpr object) property optional)
  | .index object key optional => do
    let object ← onExpr object
    b.expr (.index object (← onExpr key) optional)
  | .importCall phase args => do b.expr (.importCall phase (← onExprs args))
  | .awaitExpr e => do b.expr (.awaitExpr (← onExpr e))
  | .yieldExpr delegate e => do
    let e ←
      match e with
      | some e => pure (some (← onExpr e))
      | none => pure none
    b.expr (.yieldExpr delegate e)
  | .paren e => do b.expr (.paren (← onExpr e))
  | .computed e => do b.expr (.computed (← onExpr e))
  | .fieldParameter target => do b.expr (.fieldParameter (← onExpr target))
  | .decorated decorators target => do
    let decorators ← onExprs decorators
    b.expr (.decorated decorators (← onExpr target))
  | .effectless fn => do b.expr (.effectless (← onExpr fn))
  | .commented cs e => return .commented cs (← onExpr e)
  | .markup piece => do b.expr (.markup (← onMarkup piece))
  | .name n => b.expr (.name n)
  | .thisRef => b.expr .thisRef
  | .superRef => b.expr .superRef
  | .null => b.expr .null
  | .bool v => b.expr (.bool v)
  | .number spelling => b.expr (.number spelling)
  | .bigint digits => b.expr (.bigint digits)
  | .string v => b.expr (.string v)
  | .brokenString text => b.expr (.brokenString text)
  | .regex body flags => b.expr (.regex body flags)
  | .hole => b.expr .hole
  | .metaProperty object property => b.expr (.metaProperty object property)
  | .privateName n => b.expr (.privateName n)

/-- Rebuilds what stands in the brackets of a key; any other key is kept. -/
def onKey : Expr → m Expr
  | .computed e => return .computed (← onExpr e)
  | key => return key

def onExprs : List Expr → m (List Expr)
  | [] => return []
  | e :: r => do
    let e ← onExpr e
    return e :: (← onExprs r)

/-- Rebuilds a member. -/
def onMember : Member → m Member
  | .property key value => do
    let key ← onKey key
    b.member (.property key (← onExpr value))
  | .shorthand n => b.member (.shorthand n)
  | .shorthandDefault n value => do b.member (.shorthandDefault n (← onExpr value))
  | .spread e => do b.member (.spread (← onExpr e))
  | .method isStatic kind decorators key fn => do
    let decorators ← onExprs decorators
    let key ← onKey key
    b.member (.method isStatic kind decorators key (← onExpr fn))
  | .field isStatic isAccessor decorators key value => do
    let decorators ← onExprs decorators
    let key ← onKey key
    let value ←
      match value with
      | some e => pure (some (← onExpr e))
      | none => pure none
    b.member (.field isStatic isAccessor decorators key value)
  | .staticBlock body => do
    b.member (.staticBlock (← b.binding _ (localsOf body) (onList false [] body)))
  | .signature key => do b.member (.signature (← onKey key))
  | .commented cs inner => return .commented cs (← onMember inner)

def onMembers : List Member → m (List Member)
  | [] => return []
  | x :: r => do
    let x ← onMember x
    return x :: (← onMembers r)

/-- Rebuilds the expressions in a piece of markup. -/
def onMarkup : Markup → m Markup
  | .element tag attributes children => do
    let tag ← onExpr tag
    let attributes ← onMarkups attributes
    return .element tag attributes (← onMarkups children)
  | .prefixedElement offset => return .prefixedElement offset
  | .fragment children => return .fragment (← onMarkups children)
  | .text raw => return .text raw
  | .embedded e => return .embedded (← onExpr e)
  | .emptyBraces => return .emptyBraces
  | .spreadChild e => return .spreadChild (← onExpr e)
  | .attribute offset name value => return .attribute offset name (← onMarkup value)
  | .bareAttribute offset name => return .bareAttribute offset name
  | .spreadAttribute e => return .spreadAttribute (← onExpr e)

def onMarkups : List Markup → m (List Markup)
  | [] => return []
  | x :: r => do
    let x ← onMarkup x
    return x :: (← onMarkups r)

/-- Rebuilds a statement. -/
def onStmt : Stmt → m Stmt
  | .expression e => do b.stmt (.expression (← onExpr e))
  | .declaration kind ds => do b.stmt (.declaration kind (← onExprs ds))
  | .functionDecl f => do b.stmt (.functionDecl (← onExpr f))
  | .classDecl c => do b.stmt (.classDecl (← onExpr c))
  | .block body => do
    b.stmt (.block (← b.binding _ (declaredBy body) (onList false [] body)))
  | .ifThen test yes no => do
    let test ← onExpr test
    let yes ← onStmt yes
    let no ←
      match no with
      | some s => pure (some (← onStmt s))
      | none => pure none
    b.stmt (.ifThen test yes no)
  | .forLoop init test update body => do
    let inner := do
      let init ←
        match init with
        | some s => pure (some (← onStmt s))
        | none => pure none
      let test ←
        match test with
        | some e => pure (some (← onExpr e))
        | none => pure none
      let update ←
        match update with
        | some e => pure (some (← onExpr e))
        | none => pure none
      return Stmt.forLoop init test update (← onStmt body)
    b.stmt (← b.binding _ (loopNames init body) inner)
  | .forIn left right body => do
    let inner := do
      let left ← onStmt left
      let right ← onExpr right
      return Stmt.forIn left right (← onStmt body)
    b.stmt (← b.binding _ (loopNames (some left) body) inner)
  | .forOf isAwait left right body => do
    let inner := do
      let left ← onStmt left
      let right ← onExpr right
      return Stmt.forOf isAwait left right (← onStmt body)
    b.stmt (← b.binding _ (loopNames (some left) body) inner)
  | .whileLoop test body => do
    let test ← onExpr test
    b.stmt (.whileLoop test (← onStmt body))
  | .doWhile body test => do
    let body ← onStmt body
    b.stmt (.doWhile body (← onExpr test))
  | .switchOn value cases => do
    let value ← onExpr value
    b.stmt (.switchOn value (← b.binding _ (declaredBy cases) (onStmts cases)))
  | .switchCase test body => do
    let test ←
      match test with
      | some e => pure (some (← onExpr e))
      | none => pure none
    b.stmt (.switchCase test (← onList false [] body))
  | .tryCatch body handler finalizer => do
    let body ← b.binding _ (declaredBy body) (onList false [] body)
    let handler ←
      match handler with
      | some s => pure (some (← onStmt s))
      | none => pure none
    let finalizer ←
      match finalizer with
      | some s => pure (some (← onStmt s))
      | none => pure none
    b.stmt (.tryCatch body handler finalizer)
  | .catchClause param body => do
    let bound :=
      match param with
      | some e => e.bound
      | none => []
    let inner := do
      let param ←
        match param with
        | some e => pure (some (← onExpr e))
        | none => pure none
      return Stmt.catchClause param (← onList false [] body)
    b.stmt (← b.binding _ (bound ++ declaredBy body) inner)
  | .labeled label body => do b.stmt (.labeled label (← onStmt body))
  | .returnStmt e => do
    let e ←
      match e with
      | some e => pure (some (← onExpr e))
      | none => pure none
    b.stmt (.returnStmt e)
  | .throwStmt e => do b.stmt (.throwStmt (← onExpr e))
  | .withStmt object body => do
    let object ← onExpr object
    b.stmt (.withStmt object (← onStmt body))
  | .importAlias exported name target => do b.stmt (.importAlias exported name (← onExpr target))
  | .exportDecl s => do b.stmt (.exportDecl (← onStmt s))
  | .exportDefault s => do b.stmt (.exportDefault (← onStmt s))
  | .enumeration name ms => do b.stmt (.enumeration name (← onMembers ms))
  | .namespaceDecl name loose body => do
    b.stmt (.namespaceDecl name loose (← b.binding _ (localsOf body) (onStmts body)))
  | .commented cs s => return .commented cs (← onStmt s)
  | .launchLine command => b.stmt (.launchLine command)
  | .directive raw => b.stmt (.directive raw)
  | .empty => b.stmt .empty
  | .nothing => b.stmt .nothing
  | .breakTo label => b.stmt (.breakTo label)
  | .continueTo label => b.stmt (.continueTo label)
  | .debugger => b.stmt .debugger
  | .importDecl phase bindings source attributes =>
    b.stmt (.importDecl phase bindings source attributes)
  | .exportNames names source attributes => b.stmt (.exportNames names source attributes)
  | .exportAll name source attributes => b.stmt (.exportAll name source attributes)
  | .erased isModuleItem typeNames => b.stmt (.erased isModuleItem typeNames)

/-- Rebuilds statements that are no list of their own. -/
def onStmts : List Stmt → m (List Stmt)
  | [] => return []
  | s :: r => do
    let s ← onStmt s
    return s :: (← onStmts r)

/-- Rebuilds a list of statements, behind those that declared the given names. -/
def onList (isModule : Bool) (declared : List String) : List Stmt → m (List Stmt)
  | [] => return []
  | s :: r => do
    let here ← b.item isModule declared (← onStmt s)
    return here ++ (← onList isModule (s.declared ++ declared) r)

end

/-- Rebuilds a module. -/
def onModule (items : Module) : m Module := onList b true [] items

end Rebuild

end LivePreview.Script
