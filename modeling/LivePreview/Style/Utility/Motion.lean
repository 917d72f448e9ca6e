import LivePreview.Style.Utility.Basic
/-!
# Motion

Transforms, filters, transitions and animations.
-/

namespace LivePreview.Style.Utility

open Value

/-! ## Transforms and filters -/

/-- The axes that a class names, and the value behind. -/
def axes (rest : String) : List String × String :=
  match Text.after? "x-" rest with
  | some value => (["x"], value)
  | none =>
    match Text.after? "y-" rest with
    | some value => (["y"], value)
    | none => (["x", "y"], rest)

/-- A value for each axis, and the property that joins them. -/
def onAxes (property initial : String) (axes : List String) (value : String) : Utility :=
  let variable' (axis : String) : String := "--tw-" ++ property ++ "-" ++ axis
  let use (axis : String) : String := "var(" ++ variable' axis ++ ", " ++ initial ++ ")"
  ofList (axes.map (fun a => (variable' a, value)) ++ [(property, use "x" ++ " " ++ use "y")])

/-- An arbitrary value, or a number in a unit. -/
def numberWith? (unit value : String) : Option String :=
  match arbitrary? value with
  | some v => some v
  | none => (Text.word? value).map fun n => Text.ofNat n ++ unit

/-- Moving, scaling and turning. -/
def transform? (c : String) : Option Utility :=
  let (negative, rest) := sign c
  match Text.after? "translate-" rest with
  | some rest => do
    let (axes, value) := axes rest
    let distance ← size? .width value
    return onAxes "translate" "0" axes (negate negative distance)
  | none =>
    match Text.after? "scale-" rest with
    | some rest => do
      let (axes, value) := axes rest
      let factor ← numberWith? "%" value
      return onAxes "scale" "1" axes (negate negative factor)
    | none =>
      match Text.after? "rotate-" rest with
      | some value => (numberWith? "deg" value).map fun a => one "rotate" (negate negative a)
      | none =>
        inTable?
          [("transform-none", [("transform", "none")]),
           ("transform-gpu", [("transform", "translateZ(0)")]),
           ("origin-center", [("transform-origin", "center")]),
           ("origin-top", [("transform-origin", "top")]),
           ("origin-top-left", [("transform-origin", "top left")])] c

/-- The radius of a blur; nothing for none. -/
def blurRadius? (value : String) : Option String :=
  match lookup?
      [("", "8px"), ("none", ""), ("xs", "4px"), ("sm", "8px"), ("md", "12px"), ("lg", "16px"),
       ("xl", "24px"), ("2xl", "40px"), ("3xl", "64px")] value with
  | some r => some r
  | none => arbitrary? value

/-- Blurs of an element or of what is behind it. -/
def filter? (c : String) : Option Utility := do
  let (property, rest) ← cutPrefix? [("backdrop-blur", "backdrop-filter"), ("blur", "filter")] c
  let value ← if rest = "" then some "" else Text.after? "-" rest
  let radius ← blurRadius? value
  return one property (if radius = "" then "none" else "blur(" ++ radius ++ ")")

/-! ## Transitions and animations -/

/-- The properties that change gradually. -/
def transitionProperties : List (String × String) :=
  let colors := "color, background-color, border-color, text-decoration-color, fill, stroke"
  [("transition", colors ++ ", opacity, box-shadow, transform, filter"), ("transition-all", "all"),
   ("transition-colors", colors), ("transition-opacity", "opacity"),
   ("transition-shadow", "box-shadow"),
   ("transition-transform", "transform, translate, scale, rotate")]

/-- Transitions. -/
def transition? (c : String) : Option Utility :=
  match lookup? transitionProperties c with
  | some properties =>
    some (ofList
      [("transition-property", properties),
       ("transition-timing-function", "var(--default-transition-timing-function)"),
       ("transition-duration", "var(--default-transition-duration)")])
  | none =>
    if c = "transition-none" then some (one "transition-property" "none")
    else
      match Text.after? "duration-" c with
      | some value =>
        (Text.word? value).map fun n =>
          same ["--tw-duration", "transition-duration"] (Text.ofNat n ++ "ms")
      | none => do
        let value ← Text.after? "ease-" c
        (lookup?
          [("linear", "linear"), ("in", "cubic-bezier(0.4, 0, 1, 1)"),
           ("out", "cubic-bezier(0, 0, 0.2, 1)"),
           ("in-out", "cubic-bezier(0.4, 0, 0.2, 1)")] value).map
          (one "transition-timing-function")

/-- How the animations of entering and leaving run. -/
def animationTiming : String :=
  "var(--tw-duration, 150ms) var(--tw-ease, ease) var(--tw-animation-delay, 0s) " ++
  "var(--tw-animation-iteration-count, 1) var(--tw-animation-direction, normal) " ++
  "var(--tw-animation-fill-mode, none)"

/-- Animations. -/
def animation? (c : String) : Option Utility :=
  (lookup?
    [("animate-spin", "spin 1s linear infinite"),
     ("animate-ping", "ping 1s cubic-bezier(0, 0, 0.2, 1) infinite"),
     ("animate-pulse", "pulse 2s cubic-bezier(0.4, 0, 0.6, 1) infinite"),
     ("animate-bounce", "bounce 1s infinite"), ("animate-none", "none"),
     ("animate-in", "enter " ++ animationTiming),
     ("animate-out", "exit " ++ animationTiming)] c).map
    (one "animation")

/-- The axis of a side, and whether it lies in the negative direction. -/
def side? (side : String) : Option (String × Bool) :=
  ([("top", ("y", true)), ("bottom", ("y", false)), ("left", ("x", true)), ("start", ("x", true)),
    ("right", ("x", false)), ("end", ("x", false))].find? fun e => e.1 = side).map (·.2)

/-- Sliding in from a side, or out to it. -/
def slide? (phase rest : String) : Option Utility := do
  let (side, amount) :=
    match Text.cut? "-" rest with
    | some (s, a) => (s, some a)
    | none => (rest, none)
  let (axis, negative) ← side? side
  let distance ←
    match amount with
    | none => some "100%"
    | some a => size? .width a
  return one ("--tw-" ++ phase ++ "-translate-" ++ axis) (negate negative distance)

/-- Entering and leaving: what changes, from or to which value. -/
def enterExit? (c : String) : Option Utility :=
  match cutPrefix?
      [("fade-in", ("enter", "opacity")), ("fade-out", ("exit", "opacity")),
       ("zoom-in", ("enter", "scale")), ("zoom-out", ("exit", "scale")),
       ("spin-in", ("enter", "rotate")), ("spin-out", ("exit", "rotate"))] c with
  | some ((phase, kind), amount) => do
    let value ←
      if amount = "" then some (if kind = "rotate" then "30deg" else "0")
      else do numberWith? (if kind = "rotate" then "deg" else "%") (← Text.after? "-" amount)
    return one ("--tw-" ++ phase ++ "-" ++ kind) value
  | none => do
    let (phase, rest) ← cutPrefix? [("slide-in-from-", "enter"), ("slide-out-to-", "exit")] c
    slide? phase rest

end LivePreview.Style.Utility
