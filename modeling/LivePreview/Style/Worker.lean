import LivePreview.Error
import LivePreview.Message.Styling
import LivePreview.Text.Order
/-!
# The stylesheet worker

A worker starts by loading its compiler. Until then, and for good if that fails, it refuses every
request. Later it answers every request in order; the stylesheet built last is kept and serves the
next request for the same set. A compiler that crashes is lost.
-/

namespace LivePreview.Style

/-- What comes of a task: a value, an error, or a crash with its message. -/
inductive Outcome (α : Type) where
  | done (value : α)
  | refused (error : PreviewError)
  | crashed (message : String)

/-- A compiler as the worker sees it: what becomes of an ordered set of candidates. -/
abbrev Build := List String → Outcome String

/-- The state of a worker. -/
structure Worker where
  /-- The compiler is still being loaded. -/
  starting : Bool
  compiler : Option Build
  /-- The set built last, and its stylesheet. -/
  cache : Option (List String × String)
  /-- How often the compiler was called. -/
  builds : Nat

namespace Worker

/-- A worker that loads its compiler. -/
def start : Worker := ⟨true, none, none, 0⟩

/-- What is said of a task that crashed. `N` stands for the number of the task, which is not known
beforehand: what is said has this shape and need not be equal to this text. -/
def crashText (message : String) : String := "task N panicked with message \"" ++ message ++ "\""

/-- The compiler is loaded, or not. -/
def load (w : Worker) : Outcome Build → Worker × StyleResponse
  | .done build => ({ w with starting := false, compiler := some build }, .ready)
  | .refused error => ({ w with starting := false }, .failed error.message none)
  | .crashed message =>
    ({ w with starting := false },
      .failed (PreviewError.workerStart (crashText message)).message none)

/-- There is no compiler. -/
def notInitialized (id : Nat) : StyleResponse :=
  .failed PreviewError.compilerNotInitialized.message (some id)

/-- Calls the compiler for a set. -/
def build (w : Worker) (compiler : Build) (key : List String) (id : Nat) : Worker × StyleResponse :=
  let w := { w with builds := w.builds + 1 }
  match compiler key with
  | .done css => ({ w with cache := some (key, css) }, .css css id)
  | .refused error => (w, .failed error.message (some id))
  | .crashed message =>
    ({ w with compiler := none },
     .failed (PreviewError.compilation (crashText message)).message (some id))

/-- The stylesheet of a set, if it was built last. -/
def cached? (w : Worker) (key : List String) : Option String :=
  (w.cache.filter fun c => c.1 == key).map (·.2)

/-- Answers a request. -/
def answer (w : Worker) (r : StyleRequest) : Worker × StyleResponse :=
  let key := Text.ordered r.candidates
  if w.starting then (w, notInitialized r.id)
  else
    match w.cached? key, w.compiler with
    | some css, _ => (w, .css css r.id)
    | none, some compiler => w.build compiler key r.id
    | none, none => (w, notInitialized r.id)

/-- To a request a worker never answers that it is ready. -/
theorem answer_ne_ready (w : Worker) (r : StyleRequest) : (w.answer r).2 ≠ .ready := by
  unfold answer build notInitialized
  dsimp only
  split
  · nofun
  · split
    · nofun
    · split <;> nofun
    · nofun

end Worker

end LivePreview.Style
