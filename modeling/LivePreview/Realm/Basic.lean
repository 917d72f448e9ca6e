import LivePreview.Console.Argument
import LivePreview.Error
import LivePreview.Message.Payload
import LivePreview.Message.Report
import LivePreview.Realm.Module
/-!
# The realm

The realm runs modules apart from the host. What arrives is handled one by one: a payload, a line
for the console, or a failure outside of the shown component. Loading and rendering are done by
others; the realm decides when a module is given up and when a component may take the place of the
one before it. After any failure the next component is mounted anew, under a key of its own.
-/

namespace LivePreview.Realm

/-- What arrives at the realm. -/
inductive Input where
  | payload (p : Payload)
  | console (method : ConsoleMethod) (args : List ConsoleArgument)
  /-- A failure that nobody caught. -/
  | fault (f : Failure)

/-- How a component is mounted. -/
inductive MountMode where
  /-- It takes the place of the one before. -/
  | hotSwap
  | remount
deriving DecidableEq, Repr

/-- What is to be rendered. -/
structure MountRequest where
  /-- The identity of the tree; a remount has a new one. -/
  rootKey : Nat
  mode : MountMode
  url : String
  component : String
deriving DecidableEq, Repr

/-- A place for a stylesheet. -/
inductive StyleSlot where
  | theme
  | utilities
deriving DecidableEq, Repr

/-- What the realm does, seen from outside. -/
inductive Effect where
  | hideOverlay
  | showOverlay (message : String)
  | load (m : LoadedModule)
  | release (url : String)
  | render (request : MountRequest)
  | unmount
  | applyStyles (slot : StyleSlot) (css : String)
  | setScheme (value : ColorScheme)
  | report (r : Report)
deriving DecidableEq, Repr

/-- How the loader and the renderer answer. -/
structure Surroundings where
  load : String → Except PreviewError LoadedModule
  /-- The failure of a component, if it fails. -/
  render : MountRequest → Option Failure

end Realm

/-- The state of a realm. -/
structure Realm where
  current : Option Realm.LoadedModule
  rootKey : Nat
  /-- A component is shown, be it in its error boundary. -/
  mounted : Bool
  /-- There was a failure since the last component that was rendered. -/
  remountNext : Bool
deriving DecidableEq, Repr

namespace Realm

/-- A realm in which nothing was loaded. -/
def start : Realm := ⟨none, 0, false, false⟩

/-- What a realm does first. -/
def announcement : List Effect := [.report .ready]

/-- Gives up a module. -/
def releaseOf (m : Option LoadedModule) : List Effect := (m.map fun m => .release m.url).toList

/-- What is said about a module that could not be loaded. -/
def loadMessage : PreviewError → String
  | .moduleLoad detail => detail
  | e => e.message

/-- A failure with its message in front of the page. -/
def showFault (r : Realm) (f : Failure) : Realm × List Effect :=
  ({ r with remountNext := true }, [.showOverlay f.message, .report (.failed f)])

/-- Shows the component of the current module. -/
def mount (s : Surroundings) (r : Realm) (url component : String) : Realm × List Effect :=
  let swap := r.mounted && !r.remountNext
  let key := if swap then r.rootKey else r.rootKey + 1
  let request : MountRequest := ⟨key, if swap then .hotSwap else .remount, url, component⟩
  match s.render request with
  | none =>
    ({ r with rootKey := key, mounted := true, remountNext := false },
     [.render request, .report .rendered])
  | some f =>
    ({ r with rootKey := key, mounted := true, remountNext := true },
     [.render request, .report (.failed f)])

/-- Makes a module the current one; the one before it is given up, and without a component nothing
is shown. -/
def adopt (s : Surroundings) (r : Realm) (m : LoadedModule) : Realm × List Effect :=
  let next := { r with current := some m }
  let before := .load m :: releaseOf r.current
  match m.component? with
  | some component =>
    let (next, effects) := next.mount s m.url component
    (next, before ++ effects)
  | none => ({ next with mounted := false }, before ++ [.unmount, .report .rendered])

/-- Loads a module and shows it; if it cannot be loaded the one before it stays. -/
def run (s : Surroundings) (r : Realm) (code : String) : Realm × List Effect :=
  let (next, effects) :=
    match s.load code with
    | .ok m => r.adopt s m
    | .error e => r.showFault ⟨loadMessage e, none⟩
  (next, .hideOverlay :: effects)

/-- Takes away what is shown. -/
def clear (r : Realm) : Realm × List Effect :=
  ({ r with mounted := false, remountNext := false, current := none },
   .hideOverlay :: .unmount :: releaseOf r.current)

/-- Handles what arrives. -/
def handle (s : Surroundings) (r : Realm) : Input → Realm × List Effect
  | .payload (.code text) => r.run s text
  | .payload .clear => r.clear
  | .payload (.themeStyles css) => (r, [.applyStyles .theme css])
  | .payload (.utilityStyles css) => (r, [.applyStyles .utilities css])
  | .payload (.scheme value) => (r, [.setScheme value])
  | .console method args => (r, [.report (.logged method (args.map ConsoleArgument.stringify))])
  | .fault f => r.showFault f

/-- The realm ends: the current module is given up. -/
def close (r : Realm) : Realm × List Effect := ({ r with current := none }, releaseOf r.current)

/-- What the effects tell the host. -/
def reports (effects : List Effect) : List Report :=
  effects.filterMap fun
    | .report r => some r
    | _ => none

section Announcing

variable {s : Surroundings} {r : Realm}

theorem ready_not_mem_mount {url component : String} :
    .report .ready ∉ (r.mount s url component).2 := by
  unfold mount
  dsimp only
  split <;> simp

theorem ready_not_mem_run {code : String} : .report .ready ∉ (r.run s code).2 := by
  unfold run adopt
  dsimp only
  split
  · split
    · simp [releaseOf, ready_not_mem_mount]
    · simp [releaseOf]
  · simp [showFault]

/-- A realm that handles what arrives does not announce itself. -/
theorem ready_not_mem_handle {i : Input} : .report .ready ∉ (r.handle s i).2 := by
  cases i with
  | payload p =>
    cases p with
    | code text => exact ready_not_mem_run
    | clear => simp [handle, clear, releaseOf]
    | themeStyles | utilityStyles | scheme => simp [handle]
  | console | fault => simp [handle, showFault]

end Announcing

end Realm

end LivePreview
