import LivePreview.Json.Tagged
/-!
# What the host posts to the realm

The host hands the realm a module to show, the two stylesheets, and the color scheme; or it takes
the module away.
-/

namespace LivePreview

/-- A color scheme. -/
inductive ColorScheme where
  | light
  | dark
deriving DecidableEq, Repr, Inhabited

namespace ColorScheme

/-- The name of a scheme. -/
def name : ColorScheme → String
  | light => "light"
  | dark => "dark"

def ofName? (s : String) : Option ColorScheme :=
  if s = "light" then some light else if s = "dark" then some dark else none

def toJson (s : ColorScheme) : Json := .str s.name

def ofJson? (j : Json) : Option ColorScheme := (Json.caseName? j).bind ofName?

end ColorScheme

/-- A message from the host to the realm. -/
inductive Payload where
  /-- Show the component of this module. -/
  | code (text : String)
  /-- The theme's stylesheet. -/
  | themeStyles (css : String)
  /-- The stylesheet of the utilities. -/
  | utilityStyles (css : String)
  | scheme (value : ColorScheme)
  /-- Show nothing. -/
  | clear
deriving DecidableEq, Repr

namespace Payload

/-- The name of a payload's kind. -/
def kind : Payload → String
  | code _ => "code"
  | themeStyles _ => "theme-css"
  | utilityStyles _ => "tailwind-css"
  | scheme _ => "theme"
  | clear => "clear"

/-- The content of a payload under the name of its field. -/
def fields : Payload → List (String × Json)
  | code text => [("js", .str text)]
  | themeStyles css => [("css", .str css)]
  | utilityStyles css => [("css", .str css)]
  | scheme value => [("value", .str value.name)]
  | clear => []

def toJson (p : Payload) : Json := Json.ofTagged p.kind p.fields

def ofTagged? (t : Json.Tagged) : Option Payload :=
  match t.tag with
  | "code" => do return code (← (← t.fields? ["js"]).required "js" Json.str?)
  | "theme-css" => do return themeStyles (← (← t.fields? ["css"]).required "css" Json.str?)
  | "tailwind-css" => do return utilityStyles (← (← t.fields? ["css"]).required "css" Json.str?)
  | "theme" => do
    let name ← (← t.fields? ["value"]).required "value" Json.caseNameWithin?
    return scheme (← ColorScheme.ofName? name)
  | "clear" => (t.fields? []).map fun _ => clear
  | _ => none

def ofJson? (j : Json) : Option Payload := j.tagged?.bind ofTagged?

end Payload

end LivePreview
