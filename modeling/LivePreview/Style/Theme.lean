import LivePreview.Error
import LivePreview.Style.Sheets
import LivePreview.Text.Order
/-!
# Themes

A theme imports sheets, publishes tokens such as `--color-primary` under `:root`, and lays down base
rules. All of that is the preamble of a stylesheet. The tokens are also what classes such as
`bg-primary` and `rounded-lg` may name.
-/

namespace LivePreview.Style

/-- A theme. -/
structure Theme where
  /-- The names of sheets, in the order in which they are put in front. -/
  imports : List String
  /-- The selector of the dark scheme, with `&` for the element. -/
  darkVariant : String
  tokens : List Declaration
  baseRules : List (String × List Declaration)
deriving DecidableEq, Repr

namespace Theme

/-- The tokens of the playground. -/
def standardTokens : List Declaration :=
  [("--color-background", "var(--background)"), ("--color-foreground", "var(--foreground)"),
   ("--color-card", "var(--card)"), ("--color-card-foreground", "var(--card-foreground)"),
   ("--color-popover", "var(--popover)"),
   ("--color-popover-foreground", "var(--popover-foreground)"),
   ("--color-primary", "var(--primary)"),
   ("--color-primary-foreground", "var(--primary-foreground)"),
   ("--color-secondary", "var(--secondary)"),
   ("--color-secondary-foreground", "var(--secondary-foreground)"),
   ("--color-muted", "var(--muted)"), ("--color-muted-foreground", "var(--muted-foreground)"),
   ("--color-accent", "var(--accent)"), ("--color-accent-foreground", "var(--accent-foreground)"),
   ("--color-destructive", "var(--destructive)"), ("--color-border", "var(--border)"),
   ("--color-input", "var(--input)"), ("--color-ring", "var(--ring)"),
   ("--color-chart-1", "var(--chart-1)"), ("--color-chart-2", "var(--chart-2)"),
   ("--color-chart-3", "var(--chart-3)"), ("--color-chart-4", "var(--chart-4)"),
   ("--color-chart-5", "var(--chart-5)"), ("--color-sidebar", "var(--sidebar)"),
   ("--color-sidebar-foreground", "var(--sidebar-foreground)"),
   ("--color-sidebar-primary", "var(--sidebar-primary)"),
   ("--color-sidebar-primary-foreground", "var(--sidebar-primary-foreground)"),
   ("--color-sidebar-accent", "var(--sidebar-accent)"),
   ("--color-sidebar-accent-foreground", "var(--sidebar-accent-foreground)"),
   ("--color-sidebar-border", "var(--sidebar-border)"),
   ("--color-sidebar-ring", "var(--sidebar-ring)"), ("--radius-sm", "calc(var(--radius) - 4px)"),
   ("--radius-md", "calc(var(--radius) - 2px)"), ("--radius-lg", "var(--radius)"),
   ("--radius-xl", "calc(var(--radius) + 4px)"), ("--radius-2xl", "calc(var(--radius) + 8px)"),
   ("--radius-3xl", "calc(var(--radius) + 12px)"), ("--radius-4xl", "calc(var(--radius) + 16px)")]

/-- The theme of the playground; the dark scheme is set by a class on an element around. -/
def standard : Theme :=
  { imports := Sheets.builtin.map (·.1)
    darkVariant := "&:is(.dark *)"
    tokens := standardTokens
    baseRules :=
      [("*",
        [("border-color", "var(--color-border)"),
         ("outline-color", "color-mix(in oklch, var(--color-ring) 50%, transparent)")]),
       ("body",
        [("background-color", "var(--color-background)"), ("color", "var(--color-foreground)"),
         ("font-family", "var(--font-sans, system-ui, -apple-system, sans-serif)")])] }

/-- What follows a text in the names of the tokens. -/
def tokenNames (t : Theme) (family : String) : List String :=
  Text.ordered (t.tokens.filterMap fun d => Text.after? family d.1)

/-- The names that classes may use. -/
def names (t : Theme) : Value.Names :=
  ⟨t.tokenNames "--color-", t.tokenNames "--radius-"⟩

/-- A sheet under a comment with its name; its last line gets an end if it lacks one. -/
def sheetText (name content : String) : String :=
  "/* " ++ name ++ " */\n" ++ content ++
    if content = "" || Text.endsWith "\n" content then "" else "\n"

/-- The sheets that a theme imports. -/
def importedText (sheets : Sheets) : List String → Except PreviewError String
  | [] => .ok ""
  | name :: r =>
    match sheets.find? name with
    | none => .error (.unknownStylesheet name)
    | some content => (importedText sheets r).map (sheetText name content ++ ·)

/-- The tokens in their layer. -/
def tokenText (t : Theme) : String :=
  if t.tokens.isEmpty then "" else layerText "theme" (blockText ":root, :host" t.tokens)

/-- The base rules in their layer. -/
def baseText (t : Theme) : String :=
  if t.baseRules.isEmpty then ""
  else layerText "base" (String.join (t.baseRules.map fun r => "  " ++ ruleText r.1 r.2 ++ "\n"))

/-- Everything in front of the utilities. -/
def preamble (t : Theme) (sheets : Sheets) : Except PreviewError String :=
  (importedText sheets t.imports).map fun imported => imported ++ t.tokenText ++ t.baseText

end Theme

end LivePreview.Style
