import LivePreview.Error
/-!
# Files in a directory

The files of a directory and of those in it, each under the names on the way to it, as they were
written. A text is read from bytes that are valid UTF-8.
-/

namespace LivePreview

/-- A file below a directory. -/
structure StoredFile where
  /-- The names of the directories on the way, and of the file. -/
  path : List String
  bytes : ByteArray

namespace StoredFile

/-- The name of a file. -/
def name (f : StoredFile) : String := f.path.getLast?.getD ""

/-- The text of a file. -/
def text (f : StoredFile) : Except PreviewError String :=
  match String.fromUTF8? f.bytes with
  | some s => .ok s
  | none => .error (.unreadable f.name)

end StoredFile

/-- The files below a directory. -/
structure FileTree where
  files : List StoredFile

namespace FileTree

def empty : FileTree := ⟨[]⟩

/-- Writes a file; one with the same path is overwritten. -/
def write (t : FileTree) (f : StoredFile) : FileTree :=
  ⟨t.files.filter (fun g => g.path ≠ f.path) ++ [f]⟩

/-- The files that are in the directory itself. -/
def topLevel (t : FileTree) : List StoredFile := t.files.filter fun f => f.path.length = 1

/-- The files of a directory, if it is there. -/
def require (t : Option FileTree) : Except PreviewError FileTree :=
  match t with
  | some t => .ok t
  | none => .error (.unreadable "")

end FileTree

end LivePreview
