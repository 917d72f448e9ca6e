import LivePreview.Candidates
import LivePreview.FileTree
import LivePreview.Json.Decode
import LivePreview.Json.Print
import LivePreview.Text.Order
/-!
# Baseline candidates

The components that a preview brings along use classes that no source of the user mentions. Their
scripts are scanned once, and the candidates in them are kept as a document.
-/

namespace LivePreview.Baseline

/-- The extensions of scripts. -/
def extensions : List String := ["tsx", "ts", "jsx", "js"]

/-- What follows the last dot of a name, unless nothing stands in front of it. -/
def extension? (name : String) : Option String :=
  match Text.cutLast? '.' name with
  | some (front, rest) => if front = "" then none else some rest
  | none => none

/-- Whether a file is a script. -/
def isScript (f : StoredFile) : Bool := (extension? f.name).any extensions.contains

/-- The candidates in the scripts of a directory, each once and in order; every script must be a
text. -/
def scan (tree : Option FileTree) : Except PreviewError (List String) := do
  let tree ← FileTree.require tree
  let sources ← (tree.files.filter isScript).mapM StoredFile.text
  return Text.ordered (sources.flatMap Candidates.ofSource)

/-- The document of some candidates. -/
def dump (candidates : List String) : String := (Json.ofStrings candidates).compact

/-- The candidates of a document. -/
def load (text : String) : Except PreviewError (List String) :=
  match Json.decode? (Json.list? Json.str?) text with
  | some candidates => .ok candidates
  | none => .error .configuration

end LivePreview.Baseline
