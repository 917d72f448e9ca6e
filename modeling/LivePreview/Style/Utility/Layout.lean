import LivePreview.Style.Utility.Basic
/-!
# Layout

How an element is displayed and where it is placed: display, position, overflow, flexible boxes,
grids and alignment.
-/

namespace LivePreview.Style.Utility

open Value

/-- Display and position. -/
def display? (c : String) : Option Utility :=
  inTable?
    [("block", [("display", "block")]), ("inline-block", [("display", "inline-block")]),
     ("inline", [("display", "inline")]), ("flex", [("display", "flex")]),
     ("inline-flex", [("display", "inline-flex")]), ("grid", [("display", "grid")]),
     ("inline-grid", [("display", "inline-grid")]), ("contents", [("display", "contents")]),
     ("flow-root", [("display", "flow-root")]), ("table", [("display", "table")]),
     ("hidden", [("display", "none")]), ("static", [("position", "static")]),
     ("fixed", [("position", "fixed")]), ("absolute", [("position", "absolute")]),
     ("relative", [("position", "relative")]), ("sticky", [("position", "sticky")])] c

/-- The edges that a class of insets sets. -/
def insetEdges : List (String × List String) :=
  [("inset-x-", ["left", "right"]), ("inset-y-", ["top", "bottom"]),
   ("inset-", ["top", "right", "bottom", "left"]), ("top-", ["top"]), ("right-", ["right"]),
   ("bottom-", ["bottom"]), ("left-", ["left"])]

/-- The distance of an element from edges. -/
def inset? (c : String) : Option Utility := do
  let (negative, rest) := sign c
  let (edges, value) ← cutPrefix? insetEdges rest
  let size ← size? .width value
  return same edges (negate negative size)

/-- The order of elements that cover each other. -/
def zIndex? (c : String) : Option Utility := do
  let value ← Text.after? "z-" c
  if value = "auto" then return one "z-index" "auto"
  else
    match arbitrary? value with
    | some v => return one "z-index" v
    | none =>
      let _ ← Text.word? value
      return one "z-index" value

/-- What happens to content that does not fit. -/
def overflow? (c : String) : Option Utility := do
  let (property, value) ← cutPrefix?
    [("overflow-x-", "overflow-x"), ("overflow-y-", "overflow-y"), ("overflow-", "overflow")] c
  if ["auto", "hidden", "clip", "visible", "scroll"].contains value then return one property value
  else none

/-- Visibility, proportions and the like. -/
def appearance? (c : String) : Option Utility :=
  inTable?
    [("visible", [("visibility", "visible")]), ("invisible", [("visibility", "hidden")]),
     ("isolate", [("isolation", "isolate")]), ("aspect-square", [("aspect-ratio", "1 / 1")]),
     ("aspect-video", [("aspect-ratio", "16 / 9")]), ("object-cover", [("object-fit", "cover")]),
     ("object-contain", [("object-fit", "contain")]),
     ("object-center", [("object-position", "center")]),
     ("sr-only",
      [("position", "absolute"), ("width", "1px"), ("height", "1px"), ("padding", "0"),
       ("margin", "-1px"), ("overflow", "hidden"), ("clip", "rect(0, 0, 0, 0)"),
       ("white-space", "nowrap"), ("border-width", "0")])] c

/-- The place of an element among its neighbours. -/
def order? (value : String) : Option String :=
  match lookup? [("first", "-9999"), ("last", "9999"), ("none", "0")] value with
  | some v => some v
  | none => (Text.word? value).map fun _ => value

/-- Flexible boxes. -/
def flex? (c : String) : Option Utility :=
  let fixed := inTable?
    [("flex-row", [("flex-direction", "row")]),
     ("flex-row-reverse", [("flex-direction", "row-reverse")]),
     ("flex-col", [("flex-direction", "column")]),
     ("flex-col-reverse", [("flex-direction", "column-reverse")]),
     ("flex-wrap", [("flex-wrap", "wrap")]), ("flex-wrap-reverse", [("flex-wrap", "wrap-reverse")]),
     ("flex-nowrap", [("flex-wrap", "nowrap")]), ("flex-1", [("flex", "1 1 0%")]),
     ("flex-auto", [("flex", "1 1 auto")]), ("flex-initial", [("flex", "0 1 auto")]),
     ("flex-none", [("flex", "none")]), ("grow", [("flex-grow", "1")]),
     ("grow-0", [("flex-grow", "0")]), ("shrink", [("flex-shrink", "1")]),
     ("shrink-0", [("flex-shrink", "0")])] c
  match fixed with
  | some u => some u
  | none =>
    match Text.after? "basis-" c with
    | some value => (size? .width value).map (one "flex-basis")
    | none =>
      match Text.after? "order-" c with
      | some value => (order? value).map (one "order")
      | none => none

/-- A number of tracks, from one to twelve. -/
def upToTwelve? (value : String) : Option Nat :=
  (Text.word? value).filter fun n => 1 ≤ n && n ≤ 12

/-- The tracks of a grid. -/
def tracks? (value : String) : Option String :=
  if value = "none" then some "none"
  else
    match arbitrary? value with
    | some v => some v
    | none => (upToTwelve? value).map fun n => "repeat(" ++ Text.ofNat n ++ ", minmax(0, 1fr))"

/-- How many tracks an element takes. -/
def span? (value : String) : Option String :=
  if value = "full" then some "1 / -1"
  else (upToTwelve? value).map fun n => "span " ++ Text.ofNat n ++ " / span " ++ Text.ofNat n

/-- Grids. -/
def grid? (c : String) : Option Utility := do
  let ((property, isSpan), value) ← cutPrefix?
    [("grid-cols-", ("grid-template-columns", false)),
     ("grid-rows-", ("grid-template-rows", false)),
     ("col-span-", ("grid-column", true)), ("row-span-", ("grid-row", true))] c
  (if isSpan then span? value else tracks? value).map (one property)

/-- The values of alignment; the ends of some properties are those of the flow. -/
def alignment? (property value : String) : Option String :=
  let flows := ["justify-content", "align-items", "align-content"].contains property
  lookup?
    [("start", if flows then "flex-start" else "start"),
     ("end", if flows then "flex-end" else "end"),
     ("center", "center"), ("stretch", "stretch"), ("baseline", "baseline"), ("auto", "auto"),
     ("between", "space-between"), ("around", "space-around"), ("evenly", "space-evenly")] value

/-- Alignment. -/
def align? (c : String) : Option Utility := do
  let (property, value) ← cutPrefix?
    [("items-", "align-items"), ("justify-items-", "justify-items"),
     ("justify-self-", "justify-self"), ("justify-", "justify-content"), ("self-", "align-self"),
     ("content-", "align-content"), ("place-items-", "place-items"),
     ("place-content-", "place-content")] c
  (alignment? property value).map (one property)

end LivePreview.Style.Utility
