import LivePreview.Script.Operator
/-!
# Places of expressions

What an expression's surroundings are when it is printed: the level above which it needs no
parentheses, and which construct its first token begins, since an object, a function or a class must
not stand first in a statement.
-/

namespace LivePreview.Script

/-- What begins with the first token of an expression. -/
inductive Lead where
  | inside
  | statement
  | arrowBody
  | defaultExport
deriving DecidableEq, Repr

/-- What an expression is used as. -/
inductive Usage where
  | value
  /-- It binds names. -/
  | binding
  /-- It is assigned to. -/
  | target
deriving DecidableEq, Repr

/-- The surroundings of an expression. -/
structure Place where
  level : Level
  /-- A call would belong to a `new` in front. -/
  forbidCall : Bool
  /-- An `in` would belong to the head of a loop. -/
  forbidIn : Bool
  lead : Lead
  usage : Usage

namespace Place

/-- A value with nothing around that could be confused with it. -/
def value (level : Level) : Place := ⟨level, false, false, .inside, .value⟩

/-- A pattern that binds names. -/
def binding : Place := ⟨Level.comma, false, false, .inside, .binding⟩

/-- The leftmost operand of an expression in this place. -/
def first (p : Place) (level : Level) : Place := { p with level, usage := .value }

/-- Another operand of an expression in this place. -/
def next (p : Place) (level : Level) : Place := { p with level, lead := .inside, usage := .value }

/-- The object of a member, or the callee of a call. -/
def object (p : Place) (forbidCall : Bool) : Place :=
  { p with level := Level.postfixOp, forbidCall, forbidIn := false, usage := .value }

end Place

end LivePreview.Script
