import LivePreview.Style.Utility.Basic
/-!
# Spacing and sizes

The room around, inside and between elements, and how large they are.
-/

namespace LivePreview.Style.Utility

open Value

/-- The gaps of a flexible box or a grid. -/
def gap? (c : String) : Option Utility := do
  let (property, value) ← cutPrefix?
    [("gap-x-", "column-gap"), ("gap-y-", "row-gap"), ("gap-", "gap")] c
  (spacing? value).map (one property)

/-- What selects all children but the last one. -/
def allButLast : String := " > :not(:last-child)"

/-- The room between children. -/
def between? (c : String) : Option Utility := do
  let (property, value) ← cutPrefix?
    [("space-x-", "margin-inline-end"), ("space-y-", "margin-block-end")] c
  let v ← spacing? value
  return ⟨[(property, v)], some allButLast⟩

/-- The properties of padding, and those of margins. -/
def paddings : List (String × String) :=
  [("p", "padding"), ("px", "padding-inline"), ("py", "padding-block"), ("pt", "padding-top"),
   ("pr", "padding-right"), ("pb", "padding-bottom"), ("pl", "padding-left")]

def margins : List (String × String) :=
  [("m", "margin"), ("mx", "margin-inline"), ("my", "margin-block"), ("mt", "margin-top"),
   ("mr", "margin-right"), ("mb", "margin-bottom"), ("ml", "margin-left")]

/-- Padding and margins. Only a margin may be negative or automatic, and not both. -/
def padding? (c : String) : Option Utility := do
  let (negative, rest) := sign c
  let (key, value) ← Text.cut? "-" rest
  match lookup? margins key with
  | some property =>
    if value = "auto" then if negative then none else return one property "auto"
    else return one property (negate negative (← spacing? value))
  | none =>
    let property ← lookup? paddings key
    if negative then none else (spacing? value).map (one property)

/-- The widths of containers. -/
def containerWidths : List (String × String) :=
  [("3xs", "16rem"), ("2xs", "18rem"), ("xs", "20rem"), ("sm", "24rem"), ("md", "28rem"),
   ("lg", "32rem"), ("xl", "36rem"), ("2xl", "42rem"), ("3xl", "48rem"), ("4xl", "56rem"),
   ("5xl", "64rem"), ("6xl", "72rem"), ("7xl", "80rem"), ("prose", "65ch"), ("none", "none")]

/-- Widths and heights. -/
def sizing? (c : String) : Option Utility :=
  match Text.after? "size-" c with
  | some value => (size? .width value).map (same ["width", "height"])
  | none =>
    match Text.after? "max-w-" c with
    | some value =>
      match lookup? containerWidths value with
      | some w => some (one "max-width" w)
      | none => (size? .width value).map (one "max-width")
    | none => do
      let ((property, axis), value) ← cutPrefix?
        [("min-w-", ("min-width", Axis.width)), ("min-h-", ("min-height", Axis.height)),
         ("max-h-", ("max-height", Axis.height)), ("w-", ("width", Axis.width)),
         ("h-", ("height", Axis.height))] c
      (size? axis value).map (one property)

end LivePreview.Style.Utility
