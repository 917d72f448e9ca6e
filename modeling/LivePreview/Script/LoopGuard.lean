import LivePreview.Script.Rebuild
/-!
# Guards in loops

A module counts the rounds of all its loops in one variable; the first statement of each loop's body
counts one round and throws once there were too many. A body that is no block becomes one.
-/

namespace LivePreview.Script.LoopGuard

/-- The variable that counts. -/
def counter : String := "__loopGuard"

/-- What is thrown. -/
def notice : String := "Possible infinite loop detected"

/-- The line in front of a guarded module. -/
def prelude : String := "let " ++ counter ++ " = 0;\n"

/-- Counts a round, and throws behind round number `limit`. -/
def check (limit : Nat) : Stmt :=
  .ifThen (.binary ">" (.update "++" true (.name counter)) (.number (toString limit)))
    (.throwStmt (.new (.name "Error") [.string notice] false)) none

/-- The body of a loop with its check. -/
def guardBody (limit : Nat) (body : Stmt) : Stmt :=
  match body.bare with
  | .block ss => .block (check limit :: ss)
  | _ => .block [check limit, body]

/-- A loop with its body changed; other statements are left as they are. -/
def onBody {m : Type → Type} [Monad m] (f : Stmt → m Stmt) : Stmt → m Stmt
  | .forLoop init test update body => return .forLoop init test update (← f body)
  | .forIn left right body => return .forIn left right (← f body)
  | .forOf isAwait left right body => return .forOf isAwait left right (← f body)
  | .whileLoop test body => return .whileLoop test (← f body)
  | .doWhile body test => return .doWhile (← f body) test
  | s => return s

/-- The rebuild that changes the bodies of all loops. -/
def bodies {m : Type → Type} [Monad m] (f : Stmt → m Stmt) : Rebuild m :=
  { Rebuild.keep with stmt := onBody f }

/-- The body of a loop gets its check, which counts. -/
def inject (limit : Nat) (body : Stmt) : StateM Nat Stmt := do
  modify (· + 1)
  return guardBody limit body

/-- A module all of whose loops have checks, and the number of these. -/
def guardModule (limit : Nat) (items : Module) : Module × Nat :=
  ((bodies (inject limit)).onModule items).run 0

end LivePreview.Script.LoopGuard
