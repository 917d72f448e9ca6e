import LivePreview.Json.Decode
import LivePreview.Json.Print
import LivePreview.Text.Search
/-!
# Themes of a registry

A theme gives values to variables, for the light and the dark scheme and for the theme itself. Its
stylesheet declares them and maps those with a known meaning to the tokens of utilities.
-/

namespace LivePreview.Registry

/-- Variables with their values, in document order. -/
abbrev Variables := List (String × Json)

/-- The variables of a theme. -/
structure ThemeVariables where
  theme : Option Variables
  light : Option Variables
  dark : Option Variables

/-- Rules of the base layer: selectors with declarations. -/
abbrev BaseRules := List (String × List (String × String))

/-- The value of a variable in a stylesheet: a text as it is, anything else as JSON. -/
def valueText : Json → String
  | .str s => s
  | j => j.compact

namespace ThemeVariables

/-- The variables of an object, each of which has a value. -/
def variables? (j : Json) : Option Variables :=
  if j.sound then j.merged.obj? else none

def ofJson? (j : Json) : Option ThemeVariables := do
  let r ← j.record? ["theme", "light", "dark"]
  return {
    theme := ← r.optionalOrMissing "theme" variables?
    light := ← r.optionalOrMissing "light" variables?
    dark := ← r.optionalOrMissing "dark" variables? }

def toJson (v : ThemeVariables) : Json :=
  .obj [("theme", .ofOption .obj v.theme), ("light", .ofOption .obj v.light),
    ("dark", .ofOption .obj v.dark)]

/-- Whether there is anything to declare for a scheme. -/
def isUsable (v : ThemeVariables) : Bool := v.light.isSome || v.dark.isSome

/-! ## Tokens -/

/-- The variables that are colors. -/
def colorNames : List String :=
  ["background", "foreground", "card", "card-foreground", "popover", "popover-foreground",
   "primary", "primary-foreground", "secondary", "secondary-foreground", "muted",
   "muted-foreground", "accent", "accent-foreground", "destructive", "destructive-foreground",
   "border", "input", "ring", "chart-1", "chart-2", "chart-3", "chart-4", "chart-5", "sidebar",
   "sidebar-foreground", "sidebar-primary",
   "sidebar-primary-foreground", "sidebar-accent", "sidebar-accent-foreground", "sidebar-border",
   "sidebar-ring"]

/-- The tokens for radii. -/
def radiusTokens : List (String × String) :=
  [("--radius-sm", "calc(var(--radius) - 4px)"), ("--radius-md", "calc(var(--radius) - 2px)"),
   ("--radius-lg", "var(--radius)"), ("--radius-xl", "calc(var(--radius) + 4px)"),
   ("--radius-2xl", "calc(var(--radius) + 8px)"), ("--radius-3xl", "calc(var(--radius) + 12px)"),
   ("--radius-4xl", "calc(var(--radius) + 16px)")]

/-- The tokens for fonts. -/
def fontNames : List String := ["font-sans", "font-mono", "font-serif"]

def has (vs : Variables) (name : String) : Bool := vs.any fun v => v.1 = name

/-- A token that takes the value of the variable with its name. -/
def sameToken (name : String) : String × String := ("--" ++ name, "var(--" ++ name ++ ")")

/-- Whether a variable is a token for shadows, distances or tracking. -/
def isEffect (name : String) : Bool :=
  name == "shadow" || name == "spacing" || Text.startsWith "shadow-" name ||
    Text.startsWith "tracking-" name

/-- Whether a variable of the theme itself has no token of its own. -/
def isMapped (name : String) : Bool :=
  colorNames.contains name || name == "radius" || Text.startsWith "font-" name

/-- The tokens of a theme in order; one that comes up again keeps its place and changes its
value. -/
def tokens (theme light : Variables) : List (String × String) :=
  let colors := (light.filter fun v => colorNames.contains v.1).map fun v =>
    ("--color-" ++ v.1, "var(--" ++ v.1 ++ ")")
  let fonts := (fontNames.filter fun f => has light f || has theme f).map sameToken
  let radii := if has light "radius" || has theme "radius" then radiusTokens else []
  let effects := (light.filter fun v => isEffect v.1).map fun v => sameToken v.1
  let own := (theme.filter fun v => !isMapped v.1).map fun v => ("--" ++ v.1, valueText v.2)
  (colors ++ fonts ++ radii ++ effects ++ own).foldl (fun acc t => Json.setMember t.1 t.2 acc) []

/-! ## The stylesheet -/

/-- Declarations, one on a line. -/
def declarationLines (ds : List (String × String)) : String :=
  Text.joinWith "\n" (ds.map fun d => "  " ++ d.1 ++ ": " ++ d.2 ++ ";")

/-- The declarations of variables. -/
def variableLines (vs : Variables) : String :=
  declarationLines (vs.map fun v => ("--" ++ v.1, valueText v.2))

/-- A block around some lines. -/
def block (selector content : String) : String :=
  selector ++ " \x7b\n" ++ content ++ "\n\x7d\n\n"

/-- A rule of the base layer. -/
def baseRuleText (rule : String × List (String × String)) : String :=
  "  " ++ rule.1 ++ " \x7b\n" ++
    String.join (rule.2.map fun d => "    " ++ d.1 ++ ": " ++ d.2 ++ ";\n") ++ "  \x7d\n"

/-- What stands in front. -/
def header : String :=
  "@import \"tailwindcss\";\n@import \"tw-animate-css\";\n@import \"shadcn/tailwind.css\";\n\n" ++
    "@custom-variant dark (&:is(.dark *));\n\n"

/-- The rules of the base layer that every theme has. -/
def baseRules : String :=
  "  * \x7b\n    @apply border-border outline-ring/50;\n  \x7d\n" ++
    "  body \x7b\n    @apply bg-background text-foreground;\n" ++
    "    font-family: var(--font-sans, system-ui, -apple-system, sans-serif);\n  \x7d\n"

/-- The stylesheet of a theme. -/
def css (v : ThemeVariables) (base : BaseRules) : String :=
  let light := v.light.getD []
  header ++ block "@theme inline" (declarationLines (tokens (v.theme.getD []) light)) ++
    block ":root" (variableLines light) ++ block ".dark" (variableLines (v.dark.getD [])) ++
    "@layer base \x7b\n" ++ baseRules ++ String.join (base.map baseRuleText) ++ "\x7d\n"

end ThemeVariables

end LivePreview.Registry
