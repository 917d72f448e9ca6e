import LivePreview.Json.Decode
import LivePreview.Text.Blank
import LivePreview.Text.Search
/-!
# Files of a registry item

A registry item holds files, of which one is opened in the preview: the script with the highest
score. The score says how likely a file is to show the item by itself. A file may import other parts
of its registry; those that the preview has are imported from there.
-/

namespace LivePreview.Registry

/-- A file of an item. -/
structure File where
  path : String
  kind : String
  content : Option String
deriving DecidableEq, Repr

namespace File

def toJson (f : File) : Json :=
  .obj [("path", .str f.path), ("type", .str f.kind), ("content", .ofOption .str f.content)]

def ofJson? (j : Json) : Option File := do
  let r ← j.record? ["path", "type", "content"]
  return {
    path := ← r.required "path" Json.str?
    kind := ← r.required "type" Json.str?
    content := ← r.optionalOrMissing "content" Json.str? }

/-! ## Imports from the registry -/

/-- How many characters the beginning of a text has that names something in a registry: the prefix
of registries, the name of a registry, and `tail`. -/
def registryPath? (tail : String) (s : List Char) : Option Nat := do
  let r ← Text.afterChars? "@/registry/".toList s
  let name := r.takeWhile (· ≠ '/')
  let rest ← Text.afterChars? tail.toList (r.drop name.length)
  if name = [] then none else return s.length - rest.length

/-- Replaces the paths with a tail in any registry. -/
def replacePaths (tail new : String) (source : List Char) : List Char :=
  Text.replaceMatches (registryPath? tail) new.toList source

/-- Points imports from a registry to what the preview has. -/
def redirectImports (source : String) : String :=
  String.ofList
    (replacePaths "/lib/utils" "@/lib/utils" (replacePaths "/ui/" "@/components/ui/" source.toList))

/-- Whether a source imports parts of its registry that the preview does not have. -/
def importsRegistry (source : String) : Bool :=
  ["/blocks/", "/components/", "/examples/"].any fun tail =>
    Text.anySuffix (fun s => (registryPath? tail s).isSome) source.toList

/-! ## Choosing a file -/

/-- What the kind of a file counts for. -/
def kindScore (kind : String) : Int :=
  if kind = "registry:component" then 100000
  else if kind = "registry:ui" then 95000
  else if kind = "registry:block" then 90000
  else if kind = "registry:page" then 40000
  else 0

/-- How likely a file is to show the item by itself. -/
def score (f : File) : Int :=
  let content := f.content.getD ""
  content.utf8ByteSize + kindScore f.kind +
    (if Text.occurs "/components/" f.path then 25000 else 0) -
    (if Text.endsWith "/page.tsx" f.path then 20000 else 0) -
    (if importsRegistry content then 80000 else 0)

/-- Whether a path is that of a script. -/
def isScript (path : String) : Bool :=
  [".tsx", ".ts", ".jsx", ".js"].any fun extension => Text.endsWith extension path

/-- Whether a file can be shown: a script with content. -/
def isPlayable (f : File) : Bool :=
  f.content.any (fun c => !Text.blank c) && isScript f.path

/-- The better of two files, of equal ones the first. -/
def better (best : Option File) (f : File) : Option File :=
  match best with
  | some b => if f.score ≤ b.score then some b else some f
  | none => some f

/-- The file to open: the first of those with the highest score. -/
def select? (files : List File) : Option File :=
  (files.filter isPlayable).foldl better none

end File

end LivePreview.Registry
