import LivePreview.Script.Lowering.Enumeration
import LivePreview.Script.Names
/-!
# Declarations that types bring along

Enumerations become objects, parameters that declare fields become assignments at the start of a
constructor, and statements without a meaning at run time disappear.
-/

namespace LivePreview.Script.Lowering

/-! ## Constructors -/

/-- The fields that parameters declare. -/
def parameterFields : List Expr → List String
  | [] => []
  | .fieldParameter target :: r => target.bound ++ parameterFields r
  | .decorated _ (.fieldParameter target) :: r => target.bound ++ parameterFields r
  | _ :: r => parameterFields r

/-- A parameter that is nothing else. -/
def plainParameter : Expr → Expr
  | .fieldParameter target => target
  | .decorated decorators (.fieldParameter target) => .decorated decorators target
  | e => e

/-- Sets a field to the variable of the same name. -/
def setField (n : String) : Stmt := .expression (.assign "=" (.member .thisRef n false) (.name n))

def callsSuper (s : Stmt) : Bool :=
  match s.bare with
  | .expression (.call .superRef _ _ _) => true
  | _ => false

/-- Inserts statements behind each call of the base class's constructor. -/
def afterSuper (added : List Stmt) : List Stmt → List Stmt
  | [] => []
  | s :: r => if callsSuper s then s :: added ++ afterSuper added r else s :: afterSuper added r

def isDirective (s : Stmt) : Bool :=
  match s.bare with
  | .directive _ => true
  | _ => false

/-- The body of a constructor that sets fields first. -/
def withFields (added body : List Stmt) : List Stmt :=
  if body.any callsSuper then afterSuper added body
  else body.takeWhile isDirective ++ added ++ body.dropWhile isDirective

/-- Whether a key is that of a constructor. -/
def isConstructorKey : Expr → Bool
  | .name n => n == "constructor"
  | .string n => n == "constructor"
  | _ => false

/-- A constructor sets the fields that its parameters declare. -/
def onMember (x : Member) : Lower Member := do
  match x with
  | .method isStatic kind decorators key (.function name isAsync isGenerator params body) =>
    if isConstructorKey key then
      let added := (parameterFields params).map setField
      return .method isStatic kind decorators key
        (.function name isAsync isGenerator (params.map plainParameter) (withFields added body))
    else return x
  | x => return x

/-! ## Statements -/

/-- What a statement becomes in its list, behind those that declared the given names. -/
def onItem (isModule : Bool) (declared : List String) (s : Stmt) : Lower (List Stmt) := do
  match s with
  | .enumeration name members =>
    return [← enumeration isModule false (declared.contains name) name members]
  | .exportDecl (.enumeration name members) =>
    return [← enumeration isModule true (declared.contains name) name members]
  | .commented cs inner =>
    return (← onItem isModule declared inner).map (.commented cs)
  | .namespaceDecl _ _ _ => return []
  | .erased _ _ => return if isModule then [s] else []
  | s => return [s]

end LivePreview.Script.Lowering
