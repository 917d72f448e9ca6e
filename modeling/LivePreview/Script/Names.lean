import LivePreview.Script.Tree
/-!
# Names that are bound, declared and used

A name is free in a tree if it is used there and no declaration around its use binds it. Variables
opened by `var` belong to the whole function; all others belong to the list of statements that holds
them.
-/

namespace LivePreview.Script

/-- The names without those in a list. -/
def withoutNames (bound free : List String) : List String :=
  free.filter fun n => !bound.contains n

mutual

/-- The names that a pattern binds. -/
def Expr.bound : Expr → List String
  | .name n => [n]
  | .array elements => boundOfAll elements
  | .pattern members => boundOfMembers members
  | .initialized target _ => target.bound
  | .spread e => e.bound
  | .paren e => e.bound
  | .fieldParameter target => target.bound
  | .decorated _ target => target.bound
  | _ => []

def boundOfAll : List Expr → List String
  | [] => []
  | e :: r => e.bound ++ boundOfAll r

/-- The names that a member of a pattern binds. -/
def Member.bound : Member → List String
  | .property _ value => value.bound
  | .shorthand n => [n]
  | .shorthandDefault n _ => [n]
  | .spread e => e.bound
  | _ => []

def boundOfMembers : List Member → List String
  | [] => []
  | x :: r => x.bound ++ boundOfMembers r

end

/-- The name of a function or a class. -/
def Expr.ownName : Expr → List String
  | .function (some n) .. => [n]
  | .classOf (some n) .. => [n]
  | .effectless fn => fn.ownName
  | _ => []

mutual

/-- The names that a statement declares in the list that holds it. A function that is the whole body
of another statement belongs to that list too, and the clauses of a `switch` share one list. -/
def Stmt.declared : Stmt → List String
  | .declaration _ ds => boundOfAll ds
  | .functionDecl f => f.ownName
  | .classDecl c => c.ownName
  | .enumeration n _ => [n]
  | .namespaceDecl n _ _ => [n]
  | .importAlias _ n _ => [n]
  | .exportDecl s => s.declared
  | .exportDefault s => s.declared
  | .labeled _ s => s.declared
  | .ifThen _ yes (some no) => yes.declared ++ no.declared
  | .ifThen _ yes none => yes.declared
  | .whileLoop _ body => body.declared
  | .doWhile body _ => body.declared
  | .switchCase _ body => declaredBy body
  | .commented _ s => s.declared
  | _ => []

/-- The names that statements declare in their list. -/
def declaredBy : List Stmt → List String
  | [] => []
  | s :: r => s.declared ++ declaredBy r

end

mutual

/-- The names that `var` opens in a statement, at any depth but not in functions. -/
def Stmt.hoisted : Stmt → List String
  | .declaration .var ds => boundOfAll ds
  | .block body => hoistedBy body
  | .ifThen _ yes (some no) => yes.hoisted ++ no.hoisted
  | .ifThen _ yes none => yes.hoisted
  | .forLoop (some init) _ _ body => init.hoisted ++ body.hoisted
  | .forLoop none _ _ body => body.hoisted
  | .forIn left _ body => left.hoisted ++ body.hoisted
  | .forOf _ left _ body => left.hoisted ++ body.hoisted
  | .whileLoop _ body => body.hoisted
  | .doWhile body _ => body.hoisted
  | .switchOn _ cases => hoistedBy cases
  | .switchCase _ body => hoistedBy body
  | .tryCatch body (some handler) (some finalizer) =>
    hoistedBy body ++ handler.hoisted ++ finalizer.hoisted
  | .tryCatch body (some handler) none => hoistedBy body ++ handler.hoisted
  | .tryCatch body none (some finalizer) => hoistedBy body ++ finalizer.hoisted
  | .tryCatch body none none => hoistedBy body
  | .catchClause _ body => hoistedBy body
  | .labeled _ s => s.hoisted
  | .withStmt _ s => s.hoisted
  | .exportDecl s => s.hoisted
  | .commented _ s => s.hoisted
  | _ => []

def hoistedBy : List Stmt → List String
  | [] => []
  | s :: r => s.hoisted ++ hoistedBy r

end

/-- The names that the head of a loop and its body declare. -/
def loopNames (head : Option Stmt) (body : Stmt) : List String :=
  (match head with
    | some s => s.declared
    | none => []) ++ body.declared

/-- The names of a list of statements that belong to the function around it. -/
def localsOf (body : List Stmt) : List String := declaredBy body ++ hoistedBy body

mutual

/-- The names that are free in an expression; those that a pattern binds are not used by it. -/
def Expr.free (binds : Bool) : Expr → List String
  | .name n => if binds then [] else [n]
  | .template _ parts => freeInAll false parts
  | .tagged tag quasi => tag.free false ++ quasi.free false
  | .array elements => freeInAll binds elements
  | .spread e => e.free binds
  | .object members => freeInMembers false members
  | .pattern members => freeInMembers binds members
  | .initialized target value => target.free binds ++ value.free false
  | .function name _ _ params body =>
    withoutNames (name.toList ++ boundOfAll params)
      (freeInAll true params ++ withoutNames (localsOf body) (freeInStmts body))
  | .arrow _ params body =>
    withoutNames (boundOfAll params)
      (freeInAll true params ++ withoutNames (localsOf body) (freeInStmts body))
  | .arrowTo _ params body =>
    withoutNames (boundOfAll params) (freeInAll true params ++ body.free false)
  | .classOf name base decorators members =>
    freeInAll false decorators ++
      withoutNames name.toList
        ((match base with
          | some e => e.free false
          | none => []) ++ freeInMembers false members)
  | .unary _ e => e.free false
  | .update _ _ e => e.free false
  | .binary _ left right => left.free false ++ right.free false
  | .assign _ target value => target.free false ++ value.free false
  | .conditional test yes no => test.free false ++ yes.free false ++ no.free false
  | .sequence es => freeInAll false es
  | .call callee args _ _ => callee.free false ++ freeInAll false args
  | .new callee args _ => callee.free false ++ freeInAll false args
  | .member object _ _ => object.free false
  | .privateMember object _ _ => object.free false
  | .index object key _ => object.free false ++ key.free false
  | .importCall _ args => freeInAll false args
  | .awaitExpr e => e.free false
  | .yieldExpr _ (some e) => e.free false
  | .paren e => e.free binds
  | .computed e => e.free false
  | .fieldParameter target => target.free binds
  | .decorated decorators target => freeInAll false decorators ++ target.free binds
  | .effectless fn => fn.free false
  | .commented _ e => e.free binds
  | .markup piece => piece.free
  | _ => []

def freeInAll (binds : Bool) : List Expr → List String
  | [] => []
  | e :: r => e.free binds ++ freeInAll binds r

/-- The names that are free in a key. -/
def Expr.freeInKey : Expr → List String
  | .computed e => e.free false
  | _ => []

/-- The names that are free in a member. -/
def Member.free (binds : Bool) : Member → List String
  | .property key value => key.freeInKey ++ value.free binds
  | .shorthand n => if binds then [] else [n]
  | .shorthandDefault n value => (if binds then [] else [n]) ++ value.free false
  | .spread e => e.free binds
  | .method _ _ decorators key fn => freeInAll false decorators ++ key.freeInKey ++ fn.free false
  | .field _ _ decorators key (some value) =>
    freeInAll false decorators ++ key.freeInKey ++ value.free false
  | .field _ _ decorators key none => freeInAll false decorators ++ key.freeInKey
  | .staticBlock body => withoutNames (localsOf body) (freeInStmts body)
  | .signature key => key.freeInKey
  | .commented _ x => x.free binds

def freeInMembers (binds : Bool) : List Member → List String
  | [] => []
  | x :: r => x.free binds ++ freeInMembers binds r

/-- The names that are free in a piece of markup. -/
def Markup.free : Markup → List String
  | .element tag attributes children =>
    tag.free false ++ freeInMarkups attributes ++ freeInMarkups children
  | .fragment children => freeInMarkups children
  | .embedded e => e.free false
  | .spreadChild e => e.free false
  | .attribute _ _ value => value.free
  | .spreadAttribute e => e.free false
  | _ => []

def freeInMarkups : List Markup → List String
  | [] => []
  | x :: r => x.free ++ freeInMarkups r

/-- The names that are free in a statement; those that it declares belong to its list. -/
def Stmt.free : Stmt → List String
  | .expression e => e.free false
  | .declaration _ ds => freeInAll true ds
  | .functionDecl f => f.free false
  | .classDecl c => c.free false
  | .block body => withoutNames (declaredBy body) (freeInStmts body)
  | .ifThen test yes (some no) => test.free false ++ yes.free ++ no.free
  | .ifThen test yes none => test.free false ++ yes.free
  | .forLoop init test update body =>
    withoutNames (loopNames init body)
      ((match init with
          | some s => s.free
          | none => []) ++
        (match test with
          | some e => e.free false
          | none => []) ++
        (match update with
          | some e => e.free false
          | none => []) ++ body.free)
  | .forIn left right body =>
    withoutNames (loopNames (some left) body) (left.free ++ right.free false ++ body.free)
  | .forOf _ left right body =>
    withoutNames (loopNames (some left) body) (left.free ++ right.free false ++ body.free)
  | .whileLoop test body => test.free false ++ body.free
  | .doWhile body test => body.free ++ test.free false
  | .switchOn value cases =>
    value.free false ++ withoutNames (declaredBy cases) (freeInStmts cases)
  | .switchCase (some test) body => test.free false ++ freeInStmts body
  | .switchCase none body => freeInStmts body
  | .tryCatch body handler finalizer =>
    withoutNames (declaredBy body) (freeInStmts body) ++
      (match handler with
        | some s => s.free
        | none => []) ++
      (match finalizer with
        | some s => s.free
        | none => [])
  | .catchClause (some param) body =>
    param.free true ++ withoutNames (param.bound ++ declaredBy body) (freeInStmts body)
  | .catchClause none body => withoutNames (declaredBy body) (freeInStmts body)
  | .labeled _ s => s.free
  | .returnStmt (some e) => e.free false
  | .throwStmt e => e.free false
  | .withStmt object s => object.free false ++ s.free
  | .importAlias _ _ target => target.free false
  | .exportNames names none _ => names.map Alias.inner
  | .exportDecl s => s.free
  | .exportDefault s => s.free
  | .enumeration n members => withoutNames [n] (freeInMembers false members)
  | .namespaceDecl _ _ body => withoutNames (declaredBy body) (freeInStmts body)
  | .commented _ s => s.free
  | _ => []

def freeInStmts : List Stmt → List String
  | [] => []
  | s :: r => s.free ++ freeInStmts r

end

/-- The names that an import binds. -/
def Stmt.imported : Stmt → List String
  | .importDecl _ (some bindings) _ _ => bindings.map ImportBinding.localName
  | .commented _ s => s.imported
  | _ => []

end LivePreview.Script
