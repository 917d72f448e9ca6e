import LivePreview.Style.Utility.Basic
/-!
# Text

Fonts, lines and the shape of text.
-/

namespace LivePreview.Style.Utility

open Value

/-- The classes of text without a value. -/
def textKeywords : List (String × List Declaration) :=
  [("text-left", [("text-align", "left")]), ("text-center", [("text-align", "center")]),
   ("text-right", [("text-align", "right")]), ("text-justify", [("text-align", "justify")]),
   ("font-sans", [("font-family", "var(--font-sans)")]),
   ("font-mono", [("font-family", "var(--font-mono)")]),
   ("uppercase", [("text-transform", "uppercase")]),
   ("lowercase", [("text-transform", "lowercase")]),
   ("capitalize", [("text-transform", "capitalize")]),
   ("normal-case", [("text-transform", "none")]), ("italic", [("font-style", "italic")]),
   ("not-italic", [("font-style", "normal")]),
   ("underline", [("text-decoration-line", "underline")]),
   ("line-through", [("text-decoration-line", "line-through")]),
   ("no-underline", [("text-decoration-line", "none")]),
   ("underline-offset-4", [("text-underline-offset", "4px")]),
   ("truncate",
    [("overflow", "hidden"), ("text-overflow", "ellipsis"), ("white-space", "nowrap")]),
   ("whitespace-nowrap", [("white-space", "nowrap")]),
   ("whitespace-normal", [("white-space", "normal")]),
   ("whitespace-pre", [("white-space", "pre")]),
   ("whitespace-pre-wrap", [("white-space", "pre-wrap")]),
   ("break-words", [("overflow-wrap", "break-word")]), ("break-all", [("word-break", "break-all")]),
   ("antialiased",
    [("-webkit-font-smoothing", "antialiased"), ("-moz-osx-font-smoothing", "grayscale")])]

/-- The sizes of fonts with the heights of their lines. -/
def fontSizes : List (String × List Declaration) :=
  let size (font line : String) : List Declaration := [("font-size", font), ("line-height", line)]
  [("xs", size "0.75rem" "1rem"), ("sm", size "0.875rem" "1.25rem"), ("base", size "1rem" "1.5rem"),
   ("lg", size "1.125rem" "1.75rem"), ("xl", size "1.25rem" "1.75rem"),
   ("2xl", size "1.5rem" "2rem"),
   ("3xl", size "1.875rem" "2.25rem"), ("4xl", size "2.25rem" "2.5rem"), ("5xl", size "3rem" "1"),
   ("6xl", size "3.75rem" "1"), ("7xl", size "4.5rem" "1"), ("8xl", size "6rem" "1"),
   ("9xl", size "8rem" "1")]

def fontWeights : List (String × String) :=
  [("thin", "100"), ("extralight", "200"), ("light", "300"), ("normal", "400"), ("medium", "500"),
   ("semibold", "600"), ("bold", "700"), ("extrabold", "800"), ("black", "900")]

def lineHeights : List (String × String) :=
  [("none", "1"), ("tight", "1.25"), ("snug", "1.375"), ("normal", "1.5"), ("relaxed", "1.625"),
   ("loose", "2")]

def letterSpacings : List (String × String) :=
  [("tighter", "-0.05em"), ("tight", "-0.025em"), ("normal", "0em"), ("wide", "0.025em"),
   ("wider", "0.05em"), ("widest", "0.1em")]

/-- At most a number of lines. -/
def lineClamp? (value : String) : Option Utility :=
  if value = "none" then
    some (ofList
      [("overflow", "visible"), ("display", "block"), ("-webkit-box-orient", "horizontal"),
       ("-webkit-line-clamp", "unset")])
  else
    let lines :=
      match arbitrary? value with
      | some v => some v
      | none => (Text.word? value).map Text.ofNat
    lines.map fun n => ofList
      [("overflow", "hidden"), ("display", "-webkit-box"), ("-webkit-box-orient", "vertical"),
       ("-webkit-line-clamp", n)]

/-- The size of a font: a named one, or an arbitrary value that is no color. -/
def fontSize? (value : String) : Option Utility :=
  match inTable? fontSizes value with
  | some u => some u
  | none => if isColor? value = some false then (arbitrary? value).map (one "font-size") else none

/-- Text without its color. -/
def typography? (c : String) : Option Utility :=
  match inTable? textKeywords c with
  | some u => some u
  | none => do
    let (read, value) ← cutPrefix?
      [("line-clamp-", lineClamp?), ("text-", fontSize?),
       ("font-", fun v => (lookup? fontWeights v).map (one "font-weight")),
       ("leading-", fun v =>
          (match lookup? lineHeights v with
           | some h => some h
           | none => spacing? v).map (one "line-height")),
       ("tracking-", fun v => (lookup? letterSpacings v).map (one "letter-spacing"))] c
    read value

end LivePreview.Style.Utility
