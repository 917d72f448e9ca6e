import LivePreview.Example.Index
import LivePreview.Example.Label
import LivePreview.Text.Letters
import LivePreview.Text.Order
/-!
# Building the index

The name of a file says to which component its example belongs and what the example is called. Files
for scripts that run from right to left are passed over; a file of no known component yields a
warning.
-/

namespace LivePreview.Example

/-- A file with an example. -/
structure RawFile where
  fileName : String
  sourcePath : String
  code : String
deriving DecidableEq, Repr

/-- The components that may have examples. -/
def componentIds : List String :=
  ["accordion", "alert", "alert-dialog", "aspect-ratio", "avatar", "badge", "breadcrumb", "button",
   "button-group", "calendar", "card", "carousel", "chart", "checkbox", "collapsible", "combobox",
   "command", "context-menu", "data-table", "date-picker", "dialog", "direction", "drawer",
   "dropdown-menu", "empty", "field", "hover-card", "input", "input-group", "input-otp", "item",
   "kbd", "label", "menubar", "native-select", "navigation-menu", "pagination", "popover",
   "progress", "radio-group", "resizable", "scroll-area", "select", "separator", "sheet", "sidebar",
   "skeleton", "slider", "sonner", "spinner", "switch", "table", "tabs", "textarea", "toast", "toggle",
   "toggle-group", "tooltip", "typography"]

/-- The name of a file without its extension. -/
def baseName (fileName : String) : String := (Text.before? ".tsx" fileName).getD fileName

/-- Whether a name is a component's, or starts with it and a dash. -/
def belongsTo (base id : String) : Bool := base == id || Text.startsWith (id ++ "-") base

/-- The longer one of two ids, of equally long ones the first. -/
def longerId (best : Option String) (id : String) : Option String :=
  match best with
  | some b => if id.length ≤ b.length then some b else some id
  | none => some id

/-- The component of a file: the longest id to which its name belongs. One name is misspelled. -/
def componentOf? (fileName : String) : Option String :=
  let base := baseName fileName
  if Text.startsWith "data-picker-" base then some "date-picker"
  else (componentIds.filter (belongsTo base)).foldl longerId none

/-- What the name of a file says besides its component. -/
def variantOf (base id : String) : String :=
  let rest := String.ofList (base.toList.drop (id.length + 1))
  if rest = "" then "demo" else rest

/-- Whether a word means that a script runs from right to left. -/
def isRightToLeft (word : List Char) : Bool := word.map Text.asciiLower == ['r', 't', 'l']

/-- Whether an example is about scripts that run from right to left. -/
def skips (f : RawFile) : Bool :=
  (Text.splitWhen (· == '-') (baseName f.fileName).toList).any isRightToLeft ||
    (Text.splitWhen (fun c => !Text.isWord c) f.code.toList).any isRightToLeft

/-- The example in a file of a component. -/
def ofFile (f : RawFile) (id : String) : Example :=
  let variant := variantOf (baseName f.fileName) id
  { id := id ++ "-" ++ variant
    label := exampleLabel variant
    sourcePath := f.sourcePath
    code := f.code }

/-- The files that are not passed over, with their components. -/
def classified (files : List RawFile) : List (RawFile × Option String) :=
  (files.filter fun f => !skips f).map fun f => (f, componentOf? f.fileName)

/-- What is said about a file of no known component. -/
def warning (f : RawFile) : String :=
  "Skipping " ++ f.fileName ++ ": component id not recognized."

/-- The warnings about some files. -/
def warnings (files : List RawFile) : List String :=
  (classified files).filterMap fun c => if c.2.isNone then some (warning c.1) else none

/-- The examples of a component. -/
def examplesOf (files : List RawFile) (id : String) : List Example :=
  (classified files).filterMap fun c => if c.2 = some id then some (ofFile c.1 id) else none

/-- The index of some files: components and examples are ordered by their labels. -/
def buildIndex (files : List RawFile) : ExampleIndex :=
  let ids := Text.ordered ((classified files).filterMap (·.2))
  let components := ids.map fun id =>
    { id := id
      label := componentLabel id
      examples := sortByLabel (·.label) (examplesOf files id) : ComponentExamples }
  ⟨sortByLabel (·.label) components⟩

end LivePreview.Example
