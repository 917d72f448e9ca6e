import LivePreview.Style.Utility.Basic
/-!
# Colors, borders and shadows

What an element's surface looks like. Some classes take a width or a color: a number is a width, a
name is a color, and an arbitrary value tells by its form.
-/

namespace LivePreview.Style.Utility

open Value

/-- The color of text, and that of the background. -/
def color? (names : Names) (c : String) : Option Utility := do
  let (property, value) ← cutPrefix? [("text-", "color"), ("bg-", "background-color")] c
  (Value.color? names value).map (one property)

/-! ## Borders -/

/-- A width in pixels. -/
def pixels (n : Nat) : String := Text.ofNat n ++ "px"

/-- A width: nothing for a thin line, an arbitrary value that is no color, or a number. -/
def lineWidth? (value : String) : Option String :=
  if value = "" then some "1px"
  else
    match isColor? value with
    | some true => none
    | some false => arbitrary? value
    | none => (Text.word? value).map pixels

/-- The sides of a border with their properties. -/
def borderSides : List (String × String) :=
  [("t", "border-top-width"), ("r", "border-right-width"), ("b", "border-bottom-width"),
   ("l", "border-left-width"), ("x", "border-inline-width"), ("y", "border-block-width")]

/-- The side that the rest of a class names, and what follows. -/
def splitSide {α : Type} (side? : String → Option α) (rest : String) : Option α × String :=
  match Text.cut? "-" rest with
  | some (s, value) =>
    match side? s with
    | some side => (some side, value)
    | none => (none, rest)
  | none =>
    match side? rest with
    | some side => (some side, "")
    | none => (none, rest)

/-- Borders: their style, their width on one side or all around, or their color. -/
def border? (names : Names) (c : String) : Option Utility := do
  let rest ← tail? "border" c
  if ["solid", "dashed", "dotted", "double", "none", "hidden"].contains rest then
    return one "border-style" rest
  else
    let (side, value) := splitSide (lookup? borderSides) rest
    match lineWidth? value with
    | some width =>
      return ofList [("border-style", "solid"), (side.getD "border-width", width)]
    | none => if side.isSome then none else (Value.color? names value).map (one "border-color")

/-- The corners that a side or a corner names. -/
def corners? (side : String) : Option (List String) :=
  ([("t", ["border-top-left-radius", "border-top-right-radius"]),
    ("r", ["border-top-right-radius", "border-bottom-right-radius"]),
    ("b", ["border-bottom-right-radius", "border-bottom-left-radius"]),
    ("l", ["border-top-left-radius", "border-bottom-left-radius"]),
    ("tl", ["border-top-left-radius"]), ("tr", ["border-top-right-radius"]),
    ("br", ["border-bottom-right-radius"]),
    ("bl", ["border-bottom-left-radius"])].find? fun e => e.1 = side).map (·.2)

/-- A radius: an arbitrary one, one of the theme, or one of the scale. -/
def radiusValue? (names : Names) (value : String) : Option String :=
  match arbitrary? value with
  | some v => some v
  | none =>
    if names.radii.contains value then some ("var(--radius-" ++ value ++ ")")
    else
      lookup?
        [("", "0.25rem"), ("none", "0"), ("xs", "0.125rem"), ("sm", "0.25rem"), ("md", "0.375rem"),
         ("lg", "0.5rem"), ("xl", "0.75rem"), ("2xl", "1rem"), ("3xl", "1.5rem"), ("4xl", "2rem"),
         ("full", "calc(infinity * 1px)")] value

/-- Rounded corners. -/
def radius? (names : Names) (c : String) : Option Utility := do
  let rest ← tail? "rounded" c
  let (corners, value) := splitSide corners? rest
  let radius ← radiusValue? names value
  return same (corners.getD ["border-radius"]) radius

/-! ## Rings, shadows and outlines -/

/-- A ring around an element: its width or its color. -/
def ring? (names : Names) (c : String) : Option Utility := do
  let rest ← Text.after? "ring" c
  let width :=
    if rest = "" then some "1px"
    else (Text.after? "-" rest).bind fun v => if v = "" then none else lineWidth? v
  match width with
  | some w => return one "box-shadow" ("0 0 0 " ++ w ++ " var(--tw-ring-color, currentcolor)")
  | none =>
    let value ← Text.after? "-" rest
    (Value.color? names value).map (one "--tw-ring-color")

/-- Shadows. -/
def shadow? (c : String) : Option Utility :=
  let small := "0 1px 3px 0 rgb(0 0 0 / 0.1), 0 1px 2px -1px rgb(0 0 0 / 0.1)"
  (lookup?
    [("shadow-2xs", "0 1px rgb(0 0 0 / 0.05)"), ("shadow-xs", "0 1px 2px 0 rgb(0 0 0 / 0.05)"),
     ("shadow", small), ("shadow-sm", small),
     ("shadow-md", "0 4px 6px -1px rgb(0 0 0 / 0.1), 0 2px 4px -2px rgb(0 0 0 / 0.1)"),
     ("shadow-lg", "0 10px 15px -3px rgb(0 0 0 / 0.1), 0 4px 6px -4px rgb(0 0 0 / 0.1)"),
     ("shadow-xl", "0 20px 25px -5px rgb(0 0 0 / 0.1), 0 8px 10px -6px rgb(0 0 0 / 0.1)"),
     ("shadow-2xl", "0 25px 50px -12px rgb(0 0 0 / 0.25)"), ("shadow-none", "0 0 #0000")] c).map
    (one "box-shadow")

/-- Opacity, up to a hundred percent. -/
def opacity? (c : String) : Option Utility := do
  let value ← Text.after? "opacity-" c
  match arbitrary? value with
  | some v => return one "opacity" v
  | none =>
    let n ← Text.word? value
    if 100 < n then none else return one "opacity" (Text.ofNat n ++ "%")

/-- How an element takes part in interaction. -/
def interaction? (c : String) : Option Utility :=
  match Text.after? "cursor-" c with
  | some value =>
    if ["auto", "default", "pointer", "wait", "text", "move", "help", "not-allowed", "grab",
        "grabbing"].contains value then some (one "cursor" value)
    else none
  | none =>
    match Text.after? "select-" c with
    | some value =>
      if ["none", "text", "all", "auto"].contains value then some (one "user-select" value)
      else none
    | none =>
      inTable?
        [("pointer-events-none", [("pointer-events", "none")]),
         ("pointer-events-auto", [("pointer-events", "auto")]),
         ("outline-hidden", [("outline", "2px solid transparent"), ("outline-offset", "2px")]),
         ("outline-none", [("outline-style", "none")])] c

/-- Outlines: their width, their distance or their color. -/
def outline? (names : Names) (c : String) : Option Utility := do
  let rest ← Text.after? "outline" c
  if rest = "" then return ofList [("outline-style", "solid"), ("outline-width", "1px")]
  else
    let value ← Text.after? "-" rest
    match Text.after? "offset-" value with
    | some offset => (Text.word? offset).map fun n => one "outline-offset" (pixels n)
    | none =>
      match Text.word? value with
      | some n => return ofList [("outline-style", "solid"), ("outline-width", pixels n)]
      | none => (Value.color? names value).map (one "outline-color")

/-- The colors and lines of drawings. -/
def drawing? (names : Names) (c : String) : Option Utility :=
  match Text.after? "fill-" c with
  | some value => (Value.color? names value).map (one "fill")
  | none =>
    match Text.after? "stroke-" c with
    | some value =>
      match Text.word? value with
      | some n => some (one "stroke-width" (Text.ofNat n))
      | none => (Value.color? names value).map (one "stroke")
    | none => none

end LivePreview.Style.Utility
