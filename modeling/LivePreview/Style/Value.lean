import LivePreview.Style.Palette
import LivePreview.Text.Number
/-!
# Values in class names

A class name ends in a value: a keyword, a number of a scale, a color, or an arbitrary value in
brackets or parentheses. `[a_b]` stands for `a b` and `(--x)` for the variable `--x`; either may say
by a word in front, as in `[length:…]`, what kind of value it is.
-/

namespace LivePreview.Style

/-- The value under a key. -/
def lookup? (table : List (String × String)) (key : String) : Option String :=
  (table.find? fun e => e.1 = key).map (·.2)

/-- What stands between two characters at the ends of a text. -/
def inside? (opening closing : String) (s : String) : Option String :=
  (Text.after? opening s).bind (Text.before? closing)

namespace Value

/-! ## Arbitrary values -/

/-- A hint about the kind of a value, if one is in front, and the value. -/
def splitHint (s : String) : Option String × String :=
  match Text.cut? ":" s with
  | some (hint, rest) =>
    if hint ≠ "" && rest ≠ "" && Text.all (fun c => Text.isAsciiLower c || c == '-') hint then
      (some hint, rest)
    else (none, s)
  | none => (none, s)

/-- An arbitrary value with its hint. -/
def hinted? (s : String) : Option (Option String × String) :=
  match inside? "(" ")" s with
  | some inner =>
    let (hint, name) := splitHint inner
    if name.utf8ByteSize < 3 || !Text.startsWith "--" name then none
    else some (hint, "var(" ++ name ++ ")")
  | none => do
    let inner ← inside? "[" "]" s
    let (hint, value) := splitHint inner
    if value = "" then none else some (hint, Text.replace "_" " " value)

/-- An arbitrary value. -/
def arbitrary? (s : String) : Option String := (hinted? s).map (·.2)

/-- Whether the text of a value reads as a color. -/
def looksLikeColor (s : String) : Bool :=
  ["#", "rgb", "hsl", "oklch", "var(--color"].any fun p => Text.startsWith p s

/-- Whether an arbitrary value is a color, for classes that also take a length. A variable without a
hint is. -/
def isColor? (s : String) : Option Bool := do
  let (hint, value) ← hinted? s
  match hint with
  | some h => return h == "color"
  | none => return Text.startsWith "(" s || looksLikeColor value

/-! ## Lengths -/

/-- Whether a text is a whole number, or one with a half or a quarter. -/
def isScaleNumber (s : String) : Bool :=
  match Text.cut? "." s with
  | some (whole, fraction) =>
    Text.isDigits whole.toList && (fraction == "5" || fraction == "25" || fraction == "75")
  | none => Text.isDigits s.toList

/-- A distance: an arbitrary one, a pixel, or a multiple of the theme's spacing. -/
def spacing? (s : String) : Option String :=
  match arbitrary? s with
  | some v => some v
  | none =>
    if s = "px" then some "1px"
    else if s = "0" then some "0px"
    else if isScaleNumber s then some ("calc(var(--spacing) * " ++ s ++ ")")
    else none

/-- The sides of the screen. -/
inductive Axis where
  | width
  | height
deriving DecidableEq, Repr

/-- The lengths with names. -/
def namedSizes (axis : Axis) : List (String × String) :=
  [("auto", "auto"), ("full", "100%"), ("min", "min-content"), ("max", "max-content"),
   ("fit", "fit-content"), ("screen", if axis = .width then "100vw" else "100vh"),
   ("dvh", "100dvh"), ("svh", "100svh")]

/-- A part of the whole, as in `1/2`; it is not more than the whole. -/
def fraction? (num den : String) : Option String := do
  let n ← Text.word? num
  let d ← Text.word? den
  if d = 0 || d < n then none
  else some ("calc(" ++ Text.ofNat n ++ "/" ++ Text.ofNat d ++ " * 100%)")

/-- A length: a named one, an arbitrary one, a part of the whole, or a distance. -/
def size? (axis : Axis) (s : String) : Option String :=
  match lookup? (namedSizes axis) s with
  | some v => some v
  | none =>
    match arbitrary? s with
    | some v => some v
    | none =>
      match Text.cut? "/" s with
      | some (num, den) => fraction? num den
      | none => spacing? s

/-- The negative of a length. -/
def negate (negative : Bool) (value : String) : String :=
  if !negative || value = "0px" then value else "calc(" ++ value ++ " * -1)"

/-! ## Colors -/

/-- The names of colors and radii that a theme publishes. -/
structure Names where
  colors : List String
  radii : List String

/-- A color without an opacity: an arbitrary one, one of the palette, or one of the theme. -/
def plainColor? (names : Names) (s : String) : Option String :=
  match arbitrary? s with
  | some v => some v
  | none =>
    match Palette.color? s with
    | some c => some c
    | none => if names.colors.contains s then some ("var(--color-" ++ s ++ ")") else none

/-- A color's name and its opacity in percent, if there is one. -/
def splitOpacity (s : String) : String × Option String :=
  match Text.cutLast? '/' s with
  | some (base, a) => if Text.isDigits a.toList then (base, some a) else (s, none)
  | none => (s, none)

/-- A color, perhaps with an opacity of at most a hundred percent. -/
def color? (names : Names) (s : String) : Option String := do
  let (base, opacity) := splitOpacity s
  let color ← plainColor? names base
  match opacity with
  | none => return color
  | some a =>
    let percent ← Text.word? a
    if 100 < percent then none
    else return "color-mix(in oklab, " ++ color ++ " " ++ Text.ofNat percent ++ "%, transparent)"

end Value

end LivePreview.Style
