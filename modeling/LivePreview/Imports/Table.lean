import LivePreview.Config
import LivePreview.Imports.Map
import LivePreview.Json.Print
import LivePreview.Text.Letters
import LivePreview.Text.Search
/-!
# The import table

A fixed mapping from module specifiers to URLs. It answers two questions that are not the same:
which specifiers a source may use, and what a specifier resolves to. A key that ends in a slash
covers everything below it, and the longest such key counts. A package that the table does not
resolve has a fallback URL.
-/

namespace LivePreview

/-- The mapping from specifiers to URLs, and the specifiers that are allowed besides. -/
structure ImportTable where
  /-- Where packages are loaded from, without a slash at the end. -/
  cdn : String
  /-- Keys with their URLs, ordered by key. -/
  entries : List (String × String)
  /-- What starts with one of these is allowed. -/
  prefixes : List String
  /-- What is listed in messages. -/
  summary : List String
  fallbackTemplate : String
deriving DecidableEq, Repr

namespace ImportTable

/-- Drops slashes at the end. -/
def withoutSlashes (s : String) : String :=
  String.ofList (s.toList.reverse.dropWhile (· == '/')).reverse

/-! ## Building a table -/

/-- The table without entries, for packages on the given host. -/
def empty (cdn : String) : ImportTable :=
  let cdn := withoutSlashes cdn
  ⟨cdn, [], [], [], cdn ++ "/\x7bspecifier\x7d"⟩

/-- Lists a name in messages, once. -/
def note (t : ImportTable) (name : String) : ImportTable :=
  if t.summary.contains name then t else { t with summary := t.summary ++ [name] }

def set (t : ImportTable) (key url : String) : ImportTable :=
  { t with entries := ImportMap.setEntry key url t.entries }

/-- What keeps a package from bringing its own copy of the view library. -/
def externalQuery : String := "?external=react,react-dom"

/-- Adds a package in a version. -/
def package (t : ImportTable) (name version : String) (external : Bool) : ImportTable :=
  (t.set name (t.cdn ++ "/" ++ name ++ "@" ++ version ++
    (if external then externalQuery else ""))).note name

/-- Adds a package in a version with everything below it. -/
def packageWithSubpaths (t : ImportTable) (name version : String) : ImportTable :=
  let base := t.cdn ++ "/" ++ name ++ "@" ++ version
  ((t.set (name ++ "/") (base ++ "/")).set name base).note name

/-- Adds a single module. -/
def localModule (t : ImportTable) (specifier url : String) : ImportTable :=
  (t.set specifier url).note specifier

/-- Allows everything that starts with a text. -/
def allowPrefix (t : ImportTable) (p : String) : ImportTable :=
  if t.prefixes.contains p then t
  else
    { t with prefixes := t.prefixes ++ [p] }.note (if Text.endsWith "/" p then p ++ "*" else p)

/-- The namespace of the user interface components. -/
def uiNamespace : String := "@/components/ui/"

/-- Adds user interface components that one bundle serves. -/
def uiPrimitives (t : ImportTable) (names : List String) (bundle : String) : ImportTable :=
  (names.foldl (fun t n => t.set (uiNamespace ++ n) bundle) t).allowPrefix uiNamespace

def withFallback (t : ImportTable) (template : String) : ImportTable :=
  { t with fallbackTemplate := template }

/-- The user interface components of the bundle. -/
def uiComponentNames : List String :=
  ["accordion", "alert", "alert-dialog", "aspect-ratio", "avatar", "badge", "breadcrumb", "button",
   "button-group", "calendar", "card", "carousel", "chart", "checkbox", "collapsible", "combobox",
   "command", "context-menu", "dialog", "direction", "drawer", "dropdown-menu", "empty", "example",
   "field", "hover-card", "input", "input-group", "input-otp", "item", "kbd", "label", "menubar",
   "native-select", "navigation-menu", "pagination", "popover", "progress", "radio-group",
   "resizable", "scroll-area", "select", "separator", "sheet", "sidebar", "skeleton", "slider",
   "sonner", "spinner", "switch", "table", "tabs", "textarea", "toggle", "toggle-group", "tooltip"]

/-- The packages of the playground besides the view library: name, version, and whether it is
external to them. -/
def playgroundPackages : List (String × String × Bool) :=
  [("lucide-react", "0.469.0", true), ("@tabler/icons-react", "3.30.0", true),
   ("radix-ui", "1.4.3", true), ("class-variance-authority", "0.7.1", false),
   ("clsx", "2.1.1", false), ("tailwind-merge", "3.4.0", false), ("recharts", "2.15.4", true),
   ("sonner", "2.0.7", true), ("cmdk", "1.1.1", true), ("vaul", "1.1.2", true),
   ("input-otp", "1.4.2", true), ("embla-carousel-react", "8.6.0", true),
   ("react-day-picker", "9.13.2", true), ("react-resizable-panels", "4.6.2", true),
   ("next-themes", "0.4.6", true), ("@base-ui/react", "1.1.0", true)]

/-- The table of the playground. -/
def standard (c : Config) : ImportTable :=
  let react := ((empty c.cdnBase).packageWithSubpaths "react" "19.1.0").packageWithSubpaths
    "react-dom" "19.1.0"
  let core := (react.localModule "@/lib/utils" c.utilsModuleUrl).uiPrimitives uiComponentNames
    c.uiBundleUrl
  (playgroundPackages.foldl (fun t p => t.package p.1 p.2.1 p.2.2) core).withFallback
    c.fallbackTemplate

/-! ## Looking up -/

def entry? (t : ImportTable) (key : String) : Option String :=
  (t.entries.find? fun e => e.1 = key).map (·.2)

/-- The longer of two entries by key; of two equally long ones the second. -/
def longer (a b : Option (String × String)) : Option (String × String) :=
  match a, b with
  | some x, some y => if x.1.utf8ByteSize ≤ y.1.utf8ByteSize then some y else some x
  | none, b => b
  | a, none => a

/-- The longest key with a slash at its end that the specifier starts with, and its URL. -/
def longestPrefix? (t : ImportTable) (specifier : String) : Option (String × String) :=
  (t.entries.filter fun e => Text.endsWith "/" e.1 && Text.startsWith e.1 specifier).foldl
    (fun best e => longer best (some e)) none

/-- Whether a source may import the specifier. -/
def isAllowed (t : ImportTable) (specifier : String) : Bool :=
  (t.entry? specifier).isSome || (t.longestPrefix? specifier).isSome ||
    t.prefixes.any fun p => Text.startsWith p specifier

/-- The URL that a specifier resolves to. -/
def resolve? (t : ImportTable) (specifier : String) : Option String :=
  match t.entry? specifier with
  | some url => some url
  | none => do
    let (key, url) ← t.longestPrefix? specifier
    let rest ← Text.after? key specifier
    return url ++ rest

/-- The specifiers that messages list. -/
def allowedList (t : ImportTable) : String := Text.joinWith ", " t.summary

/-- The fallback URL of a specifier. -/
def fallbackUrl (t : ImportTable) (specifier : String) : String :=
  Text.replace "\x7bspecifier\x7d" specifier t.fallbackTemplate

/-! ## Packages -/

def isPackageStart (c : Char) : Bool := Text.isAsciiLower c || Text.isAsciiDigit c
def isPackagePart (c : Char) : Bool := isPackageStart c || c == '.' || c == '_' || c == '-'

/-- What follows the name of a package or scope, if one is in front. -/
def afterName? : List Char → Option (List Char)
  | c :: r => if isPackageStart c then some (r.dropWhile isPackagePart) else none
  | [] => none

/-- What follows the scope of a package, if one is in front, or else everything. -/
def afterScope? : List Char → Option (List Char)
  | '@' :: r => (afterName? r).bind fun rest => Text.afterChars? ['/'] rest
  | s => some s

/-- Whether a specifier names a package or something in it, rather than a file or a URL. -/
def isBarePackage (specifier : String) : Bool :=
  !Text.occurs "://" specifier &&
    match (afterScope? specifier.toList).bind afterName? with
    | some [] => true
    | some ('/' :: path) => path.all (· != '\n')
    | _ => false

/-- The fallback URL of a package that the table does not resolve. -/
def fallback? (t : ImportTable) (specifier : String) : Option String :=
  if isBarePackage specifier && (t.resolve? specifier).isNone then
    some (t.fallbackUrl specifier)
  else none

/-! ## The document -/

/-- The entries as the map that a page embeds. -/
def importMap (t : ImportTable) : ImportMap := ⟨t.entries⟩

/-- The text of that map. -/
def importMapText (t : ImportTable) : String := t.importMap.toJson.pretty

end ImportTable

end LivePreview
