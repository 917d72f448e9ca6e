import LivePreview.Text.Blank
import LivePreview.Transpile
/-!
# From edits to modules

A source is transformed when it has not been edited for a while. What comes of it counts only if the
source is still the current one: a module is announced at once, an error after a time of grace in
which no module came and no blank source. A blank source is announced at once and is not
transformed.
-/

namespace LivePreview

/-- The two waiting times, in milliseconds. -/
structure Timing where
  /-- How long a source must not be edited before it is transformed. -/
  debounce : Nat
  /-- How long an error is held back. -/
  grace : Nat
deriving DecidableEq, Repr

/-- What is said about the current source. -/
inductive EditEvent where
  /-- A transformation starts. -/
  | compiling
  | compiled (output : Transpiled)
  /-- The source has an error that outlived the time of grace. -/
  | failed (error : SourceError)
  /-- The source is blank. -/
  | cleared
deriving DecidableEq, Repr

/-- An error that is held back, with its source. -/
structure HeldError where
  deadline : Nat
  source : String
  error : SourceError
deriving DecidableEq, Repr

/-- What became of a source. -/
abbrev Verdict := Except SourceError Transpiled

/-- The state between edits and modules. -/
structure Coordinator where
  current : String
  /-- When the current source will be transformed, if it has to be. -/
  debounceAt : Option Nat
  held : Option HeldError
  /-- The sources that are being transformed. -/
  inFlight : List String
deriving DecidableEq, Repr

namespace Coordinator

def start : Coordinator := ⟨"", none, none, []⟩

/-- The source was edited. -/
def edit (t : Timing) (now : Nat) (source : String) (c : Coordinator) :
    Coordinator × List EditEvent :=
  if Text.blank source then
    ({ c with current := source, debounceAt := none, held := none }, [.cleared])
  else ({ c with current := source, debounceAt := some (now + t.debounce) }, [])

/-- The source has not been edited for long enough: its transformation starts. -/
def beginTransform (c : Coordinator) : Coordinator × List EditEvent :=
  ({ c with debounceAt := none, inFlight := c.inFlight ++ [c.current] }, [.compiling])

/-- The transformation of a source has ended. -/
def finishTransform (t : Timing) (now : Nat) (source : String) (v : Verdict) (c : Coordinator) :
    Coordinator × List EditEvent :=
  let c := { c with inFlight := c.inFlight.erase source }
  if source ≠ c.current then (c, [])
  else
    match v with
    | .ok output => ({ c with held := none }, [.compiled output])
    | .error e => ({ c with held := some ⟨now + t.grace, source, e⟩ }, [])

/-- The time of grace is over. -/
def endGrace (c : Coordinator) : Coordinator × List EditEvent :=
  match c.held with
  | some h => ({ c with held := none }, if h.source = c.current then [.failed h.error] else [])
  | none => (c, [])

/-! ## Running by the clock

A transformation takes no time on the clock: it has ended before the time moves on. So time alone
decides what happens when. -/

/-- An event with its time. -/
abbrev TimedEvent := Nat × EditEvent

/-- A coordinator with what it needs to run by the clock. -/
structure Schedule where
  timing : Timing
  /-- What becomes of a source. -/
  transform : String → Verdict

/-- Ends the transformations of some sources. -/
def finishSources (s : Schedule) (now : Nat) :
    List String → Coordinator → Coordinator × List EditEvent
  | [], c => (c, [])
  | source :: r, c =>
    let (c, first) := c.finishTransform s.timing now source (s.transform source)
    let (c, rest) := finishSources s now r c
    (c, first ++ rest)

/-- Ends all transformations. -/
def finishAll (s : Schedule) (now : Nat) (c : Coordinator) : Coordinator × List EditEvent :=
  finishSources s now c.inFlight c

/-- Transforms the current source. -/
def transformNow (s : Schedule) (now : Nat) (c : Coordinator) : Coordinator × List EditEvent :=
  let (c, started) := c.beginTransform
  let (c, finished) := c.finishAll s now
  (c, started ++ finished)

/-- Which of the two times comes first, and whether it is that of the transformation. -/
def nextTimer (c : Coordinator) : Option (Nat × Bool) :=
  match c.debounceAt, c.held.map (·.deadline) with
  | some d, some g => if d ≤ g then some (d, true) else some (g, false)
  | some d, none => some (d, true)
  | none, some g => some (g, false)
  | none, none => none

/-- The events of a moment. -/
def moment (now : Nat) (events : List EditEvent) : List TimedEvent := events.map fun e => (now, e)

/-- Fires at most `fuel` timers up to a time. -/
def fireTimers (s : Schedule) (limit : Nat) : Nat → Coordinator → Coordinator × List TimedEvent
  | 0, c => (c, [])
  | fuel + 1, c =>
    match c.nextTimer with
    | some (time, isDebounce) =>
      if limit < time then (c, [])
      else
        let (c, events) := if isDebounce then c.transformNow s time else c.endGrace
        let (c, later) := fireTimers s limit fuel c
        (c, moment time events ++ later)
    | none => (c, [])

/-- Lets the time pass from one moment to another. Without an edit three timers can fire at most: an
error's time of grace, the transformation, and the time of grace of its error. -/
def advance (s : Schedule) (now limit : Nat) (c : Coordinator) : Coordinator × List TimedEvent :=
  let (c, events) := c.finishAll s now
  let (c, later) := fireTimers s limit 3 c
  (c, moment now events ++ later)

/-- Edits the source. If it need not wait its transformation starts at once. -/
def editAt (s : Schedule) (now : Nat) (source : String) (c : Coordinator) :
    Coordinator × List TimedEvent :=
  let (c, events) := c.edit s.timing now source
  let (c, started) := if c.debounceAt.any (· ≤ now) then c.beginTransform else (c, [])
  (c, moment now (events ++ started))

end Coordinator

end LivePreview
