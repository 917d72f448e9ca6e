import LivePreview.Example.Catalog
import LivePreview.Example.Source
import LivePreview.FileTree
/-!
# Reading examples

The examples are the scripts in one directory, in the order of their names, each prepared to be
shown.
-/

namespace LivePreview.Example

/-- Where the examples come from. -/
def sourceRoot : String := "apps/v4/examples/base/"

/-- Puts a file in front of the files with names that are not smaller. -/
def insertByName (f : StoredFile) : List StoredFile → List StoredFile
  | [] => [f]
  | g :: r => if g.name < f.name then g :: insertByName f r else f :: g :: r

/-- Reads an example. -/
def read (f : StoredFile) : Except PreviewError RawFile := do
  let code ← f.text
  return ⟨f.name, sourceRoot ++ f.name, prepare code⟩

/-- Reads the examples in a directory. -/
def readFiles (tree : Option FileTree) : Except PreviewError (List RawFile) := do
  let tree ← FileTree.require tree
  let files := (tree.topLevel.filter fun f => Text.endsWith ".tsx" f.name).foldr insertByName []
  files.mapM read

end LivePreview.Example
