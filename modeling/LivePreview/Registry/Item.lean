import LivePreview.Error
import LivePreview.Json.Read
import LivePreview.Registry.File
import LivePreview.Registry.Theme
/-!
# Registry items

A document of a registry describes an item: files, a theme, or both. Opening it yields the code of
one file and the stylesheet of the theme, neither of them larger than allowed.
-/

namespace LivePreview.Registry

/-- An item. -/
structure Item where
  files : Option (List File)
  theme : Option ThemeVariables
  baseRules : BaseRules

namespace Item

/-- A rule of the base layer, if it is an object. -/
def baseRule? (m : String × Json) : Option (String × List (String × String)) :=
  m.2.obj?.map fun ds => (m.1, ds.map fun d => (d.1, valueText d.2))

/-- The rules of a document for the base layer. -/
def readBaseRules (document : Json) : BaseRules :=
  let layer := (document.get? "css").bind fun css => css.get? "@layer base"
  ((layer.bind Json.obj?).getD []).filterMap baseRule?

/-- Reads an item. -/
def parse (text : String) : Except PreviewError Item :=
  match Json.parse? text with
  | none => .error (.malformedRegistry "<parse error>")
  | some (.obj members) =>
    let document := Json.obj members
    let files := (document.get? "files").bind (Json.list? File.ofJson?)
    let theme := ((document.get? "cssVars").bind ThemeVariables.ofJson?).filter (·.isUsable)
    if files.isNone && theme.isNone then
      .error (.malformedRegistry "expected files or theme variables")
    else .ok ⟨files, theme, readBaseRules document⟩
  | some _ => .error (.malformedRegistry "expected object")

/-- What opening an item yields. -/
structure Opened where
  code : Option String
  globalCss : Option String
deriving DecidableEq, Repr

/-- A text, unless it is too large. -/
def limited (what : String) (limit : Nat) (text : String) : Except PreviewError String :=
  if limit < text.utf8ByteSize then .error (.tooLarge what limit) else .ok text

/-- The content of the file that is opened. -/
def selectedContent? (files : List File) : Option String := (File.select? files).bind (·.content)

/-- The code of an item, if there are files; without a theme one of them must be usable. -/
def code (i : Item) (limit : Nat) : Except PreviewError (Option String) :=
  match i.files with
  | none => .ok none
  | some files =>
    match selectedContent? files with
    | some content =>
      (limited "Selected registry file" limit (File.redirectImports content)).map some
    | none => if i.theme.isNone then .error .noUsableFile else .ok none

/-- The stylesheet of an item, if it has a theme. -/
def globalCss (i : Item) (limit : Nat) : Except PreviewError (Option String) :=
  match i.theme with
  | none => .ok none
  | some theme => (limited "Generated theme CSS" limit (theme.css i.baseRules)).map some

/-- Opens the item that a document describes. -/
def prepare (text : String) (limit : Nat) : Except PreviewError Opened := do
  let item ← parse text
  let code ← item.code limit
  let css ← item.globalCss limit
  return ⟨code, css⟩

end Item

end LivePreview.Registry
