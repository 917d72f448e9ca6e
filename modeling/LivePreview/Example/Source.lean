import LivePreview.Text.Blank
import LivePreview.Text.Letters
import LivePreview.Text.Search
/-!
# Preparing the source of an example

Examples import the user interface from places of their own, and they do not say where on the page
they stand. Before an example is shown its imports are pointed to the preview's components, and its
component is put in the middle of the page by a wrapper that becomes the default export.
-/

namespace LivePreview.Example

/-! ## Imports -/

/-- The places from which examples import the user interface. -/
def uiPlaces : List String :=
  ["@/examples/base/ui-rtl/", "@/examples/base/ui/", "@/examples/radix/ui-rtl/",
   "@/examples/radix/ui/"]

/-- How many characters the beginning of a text has that is one of these places. -/
def uiPlace? (s : List Char) : Option Nat :=
  (uiPlaces.find? fun p => p.toList.isPrefixOf s).map fun p => p.toList.length

/-- Points imports of the user interface to the preview's components. -/
def normalizeImports (code : String) : String :=
  String.ofList (Text.replaceMatches uiPlace? "@/components/ui/".toList code.toList)

/-! ## Exports -/

/-- What follows at least one blank. -/
def afterGap? : List Char → Option (List Char)
  | [] => none
  | c :: r => if Text.isBlank c then some (r.dropWhile Text.isBlank) else none

/-- What follows some words, each of which is followed by blanks. -/
def afterWords? : List String → List Char → Option (List Char)
  | [], s => some s
  | w :: ws, s => (Text.afterChars? w.toList s).bind fun r => (afterGap? r).bind (afterWords? ws)

/-- The name in front of a text, and what follows. -/
def name? : List Char → Option (List Char × List Char)
  | [] => none
  | c :: r =>
    if Text.isAsciiLetter c || c == '_' || c == '$' then
      some ((c :: r).span fun d => Text.isWord d || d == '$')
    else none

/-- The name of a function whose declaration starts with some words, and what follows its opening
parenthesis. -/
def functionAfter? (words : List String) (s : List Char) : Option (List Char × List Char) := do
  let (name, rest) ← (afterWords? words s).bind name?
  let rest ← Text.afterChars? ['('] (rest.dropWhile Text.isBlank)
  return (name, rest)

/-- A function that is the default export. -/
def defaultFunction? : List Char → Option (List Char × List Char) :=
  functionAfter? ["export", "default", "function"]

/-- A function that is exported under its name. -/
def namedFunction? : List Char → Option (List Char × List Char) :=
  functionAfter? ["export", "function"]

/-- A name that is the default export, and what follows with the blanks and the semicolon behind it
taken away. -/
def defaultName? (s : List Char) : Option (List Char × List Char) := do
  let (name, rest) ← (afterWords? ["export", "default"] s).bind name?
  let rest := rest.dropWhile Text.isBlank
  return (name, (Text.afterChars? [';'] rest).getD rest)

/-- The first place at which something is found: the text in front, what is found, and the text
behind. -/
def firstMatch? (find? : List Char → Option (List Char × List Char)) :
    List Char → Option (List Char × List Char × List Char)
  | [] => (find? []).map fun m => ([], m)
  | c :: r =>
    match find? (c :: r) with
    | some m => some ([], m)
    | none => (firstMatch? find? r).map fun m => (c :: m.1, m.2)

/-- Replaces what is found first by a text with the name in it. -/
def replaceFirst (find? : List Char → Option (List Char × List Char)) (before after : String)
    (s : List Char) : List Char :=
  match firstMatch? find? s with
  | some (front, name, rest) => front ++ before.toList ++ name ++ after.toList ++ rest
  | none => s

/-! ## The wrapper -/

/-- The first line of the wrapper without its brace. -/
def wrapperHead : String := "export default function CenteredPreview()"

/-- The name that a default export gets if it has none. -/
def defaultAlias : String := "__PreviewDefaultComponent"

/-- The wrapper around a component. -/
def wrapper (component : String) : String :=
  "\n\n" ++ wrapperHead ++ " \x7b\n  return (\n" ++
    "    <div className=\"flex min-h-svh w-full items-center justify-center p-6\">\n      <" ++
    component ++ " />\n    </div>\n  );\n\x7d"

/-- The name of the component that a source exports. -/
def exportedName? (s : List Char) : Option (List Char) :=
  [defaultFunction?, namedFunction?, defaultName?].findSome? fun find? =>
    (firstMatch? find? s).map fun m => m.2.1

/-- Takes away that something is the default export. -/
def demote (s : List Char) : List Char :=
  replaceFirst defaultName? ("const " ++ defaultAlias ++ " = ") ";"
    (replaceFirst defaultFunction? "function " "(" s)

/-- Puts the component of a source in the middle of the page. A source that is wrapped already, or
that exports no component, stays as it is. -/
def wrapCentered (code : String) : String :=
  if Text.occurs wrapperHead code then code
  else
    match exportedName? code.toList with
    | none => code
    | some name =>
      let demoted := String.ofList (demote code.toList)
      demoted ++
        wrapper (if Text.occurs defaultAlias demoted then defaultAlias else String.ofList name)

/-- The source of an example as it is shown. -/
def prepare (code : String) : String := wrapCentered (normalizeImports (Text.trimEnd code))

/-- Whether an example may take the place of the current code only if the user agrees. -/
def needsConfirmation (current next : String) : Bool := !Text.blank current && current != next

end LivePreview.Example
