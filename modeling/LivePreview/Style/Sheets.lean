import LivePreview.Style.Utility.Basic
/-!
# Stylesheets

A rule of a stylesheet is a selector with declarations, and a layer holds rules. The sheets that a
theme may import are kept here by name; none of them is ever fetched.
-/

namespace LivePreview.Style

/-- The declarations of a rule on one line. -/
def declarationText (declarations : List Declaration) : String :=
  String.join (declarations.map fun d => " " ++ d.1 ++ ": " ++ d.2 ++ ";")

/-- A rule on one line. -/
def ruleText (selector : String) (declarations : List Declaration) : String :=
  selector ++ " \x7b" ++ declarationText declarations ++ " \x7d"

/-- The declarations of a rule, one on a line. -/
def blockText (selector : String) (declarations : List Declaration) : String :=
  "  " ++ selector ++ " \x7b\n" ++
    String.join (declarations.map fun d => "    " ++ d.1 ++ ": " ++ d.2 ++ ";\n") ++ "  \x7d\n"

/-- A layer with its content. -/
def layerText (name content : String) : String :=
  "@layer " ++ name ++ " \x7b\n" ++ content ++ "\x7d\n"

namespace Sheet

/-- Lines, each with its end. -/
def ofLines (lines : List String) : String := String.join (lines.map (· ++ "\n"))

/-- The values of the theme. -/
def rootValues : List Declaration :=
  [("--spacing", "0.25rem"), ("--radius", "0.625rem"),
   ("--font-sans", "ui-sans-serif, system-ui, sans-serif"),
   ("--font-mono", "ui-monospace, SFMono-Regular, Menlo, monospace"),
   ("--default-transition-duration", "150ms"),
   ("--default-transition-timing-function", "cubic-bezier(0.4, 0, 0.2, 1)"),
   ("--background", "#ffffff"), ("--foreground", "#0a0a0a"), ("--card", "#ffffff"),
   ("--card-foreground", "#0a0a0a"), ("--popover", "#ffffff"), ("--popover-foreground", "#0a0a0a"),
   ("--primary", "#171717"), ("--primary-foreground", "#fafafa"), ("--secondary", "#f5f5f5"),
   ("--secondary-foreground", "#171717"), ("--muted", "#f5f5f5"), ("--muted-foreground", "#737373"),
   ("--accent", "#f5f5f5"), ("--accent-foreground", "#171717"), ("--destructive", "#e7000b"),
   ("--border", "#e5e5e5"), ("--input", "#e5e5e5"), ("--ring", "#a1a1a1"),
   ("--chart-1", "oklch(0.646 0.222 41.116)"), ("--chart-2", "oklch(0.6 0.118 184.704)"),
   ("--chart-3", "oklch(0.398 0.07 227.392)"), ("--chart-4", "oklch(0.828 0.189 84.429)"),
   ("--chart-5", "oklch(0.769 0.188 70.08)"), ("--sidebar", "#fafafa"),
   ("--sidebar-foreground", "#0a0a0a"), ("--sidebar-primary", "#171717"),
   ("--sidebar-primary-foreground", "#fafafa"), ("--sidebar-accent", "#f5f5f5"),
   ("--sidebar-accent-foreground", "#171717"), ("--sidebar-border", "#e5e5e5"),
   ("--sidebar-ring", "#a1a1a1")]

/-- The values that are different in the dark scheme. -/
def darkValues : List Declaration :=
  [("--background", "#0a0a0a"), ("--foreground", "#fafafa"), ("--card", "#171717"),
   ("--card-foreground", "#fafafa"), ("--popover", "#171717"), ("--popover-foreground", "#fafafa"),
   ("--primary", "#e5e5e5"), ("--primary-foreground", "#171717"), ("--secondary", "#262626"),
   ("--secondary-foreground", "#fafafa"), ("--muted", "#262626"), ("--muted-foreground", "#a1a1a1"),
   ("--accent", "#262626"), ("--accent-foreground", "#fafafa"), ("--destructive", "#ff6467"),
   ("--border", "#ffffff1a"), ("--input", "#ffffff26"), ("--ring", "#737373"),
   ("--chart-1", "oklch(0.488 0.243 264.376)"), ("--chart-2", "oklch(0.696 0.17 162.48)"),
   ("--chart-3", "oklch(0.769 0.188 70.08)"), ("--chart-4", "oklch(0.627 0.265 303.9)"),
   ("--chart-5", "oklch(0.645 0.246 16.439)"), ("--sidebar", "#171717"),
   ("--sidebar-foreground", "#fafafa"), ("--sidebar-primary", "oklch(0.488 0.243 264.376)"),
   ("--sidebar-primary-foreground", "#fafafa"), ("--sidebar-accent", "#262626"),
   ("--sidebar-accent-foreground", "#fafafa"), ("--sidebar-border", "#ffffff1a"),
   ("--sidebar-ring", "#737373")]

/-- The sheet of values. -/
def theme : String :=
  layerText "theme" (blockText ":root, :host" rootValues ++ blockText ".dark" darkValues)

/-- The sheet that evens out the browsers' own styles. -/
def preflight : String := ofLines
  ["@layer base \x7b",
   "  *, ::before, ::after \x7b box-sizing: border-box; margin: 0; padding: 0; " ++
     "border: 0 solid; \x7d",
   "  html, :host \x7b line-height: 1.5; font-family: var(--font-sans); " ++
     "-webkit-text-size-adjust: 100%; \x7d",
   "  img, svg, video, canvas \x7b display: block; max-width: 100%; \x7d",
   "  button, input, select, textarea \x7b font: inherit; color: inherit; " ++
     "background-color: transparent; \x7d",
   "  button \x7b cursor: pointer; \x7d",
   "\x7d"]

/-- The sheet of animations. -/
def animations : String := ofLines
  ["@keyframes spin \x7b to \x7b transform: rotate(360deg); \x7d \x7d",
   "@keyframes ping \x7b 75%, 100% \x7b transform: scale(2); opacity: 0; \x7d \x7d",
   "@keyframes pulse \x7b 50% \x7b opacity: 0.5; \x7d \x7d",
   "@keyframes bounce \x7b",
   "  0%, 100% \x7b transform: translateY(-25%); animation-timing-function: " ++
     "cubic-bezier(0.8, 0, 1, 1); \x7d",
   "  50% \x7b transform: none; animation-timing-function: cubic-bezier(0, 0, 0.2, 1); \x7d",
   "\x7d",
   "@keyframes enter \x7b",
   "  from \x7b",
   "    opacity: var(--tw-enter-opacity, 1);",
   "    transform: translate3d(var(--tw-enter-translate-x, 0), " ++
     "var(--tw-enter-translate-y, 0), 0) scale3d(var(--tw-enter-scale, 1), " ++
     "var(--tw-enter-scale, 1), var(--tw-enter-scale, 1)) rotate(var(--tw-enter-rotate, " ++
     "0));",
   "  \x7d",
   "\x7d",
   "@keyframes exit \x7b",
   "  to \x7b",
   "    opacity: var(--tw-exit-opacity, 1);",
   "    transform: translate3d(var(--tw-exit-translate-x, 0), " ++
     "var(--tw-exit-translate-y, 0), 0) scale3d(var(--tw-exit-scale, 1), " ++
     "var(--tw-exit-scale, 1), var(--tw-exit-scale, 1)) rotate(var(--tw-exit-rotate, " ++
     "0));",
   "  \x7d",
   "\x7d"]

/-- The sheet of the components. -/
def components : String := ofLines
  ["@layer base \x7b",
   "  [data-slot] \x7b outline-color: var(--ring); \x7d",
   "  [data-disabled] \x7b pointer-events: none; \x7d",
   "\x7d"]

end Sheet

/-- Sheets by name; of two sheets with one name the later one counts. -/
abbrev Sheets := List (String × String)

namespace Sheets

/-- The sheets that the default theme imports. -/
def builtin : Sheets :=
  [("tailwindcss/theme", Sheet.theme), ("tailwindcss/preflight", Sheet.preflight),
   ("tw-animate-css", Sheet.animations), ("shadcn/tailwind.css", Sheet.components)]

/-- The sheet with a name. -/
def find? (sheets : Sheets) (name : String) : Option String :=
  (sheets.reverse.find? fun s => s.1 = name).map (·.2)

end Sheets

end LivePreview.Style
