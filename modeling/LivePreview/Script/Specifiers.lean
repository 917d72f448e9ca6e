import LivePreview.Script.Rebuild
/-!
# The specifiers of a module

The texts by which a module names other modules: the sources of its imports and of its exports from
elsewhere, and the strings it imports while running.
-/

namespace LivePreview.Script.Specifiers

/-- A specifier that is replaced counts. -/
def replaceOne (f : String → Option String) (s : String) : StateM Nat String := do
  match f s with
  | some t =>
    modify (· + 1)
    return t
  | none => return s

/-- A string literal has its text replaced. -/
def replaceLiteral (f : String → Option String) (l : StringLiteral) : StateM Nat StringLiteral :=
  return { l with text := ← replaceOne f l.text }

/-- A string is replaced, also under comments. -/
def replaceString (f : String → Option String) : Expr → StateM Nat Expr
  | .string s => return .string (← replaceOne f s)
  | .brokenString s => return .brokenString (← replaceOne f s)
  | .commented cs e => return .commented cs (← replaceString f e)
  | e => return e

/-- The rebuild that replaces specifiers. -/
def rebuild (f : String → Option String) : Rebuild (StateM Nat) :=
  { Rebuild.keep with
    expr := fun e => do
      match e with
      | .importCall phase (source :: options) =>
        return .importCall phase ((← replaceString f source) :: options)
      | e => return e
    stmt := fun s => do
      match s with
      | .importDecl phase bindings source attributes =>
        return .importDecl phase bindings (← replaceLiteral f source) attributes
      | .exportNames names (some source) attributes =>
        return .exportNames names (some (← replaceLiteral f source)) attributes
      | .exportAll name source attributes =>
        return .exportAll name (← replaceLiteral f source) attributes
      | s => return s }

/-- The module with the specifiers for which `f` has something else replaced, and their number. -/
def replace (f : String → Option String) (items : Module) : Module × Nat :=
  ((rebuild f).onModule items).run 0

end LivePreview.Script.Specifiers
