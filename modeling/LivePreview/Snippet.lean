import LivePreview.Config
import LivePreview.Json.Tagged
import LivePreview.Text.Blank
/-!
# Shared snippets

A snippet is the code of a component, perhaps with a stylesheet. Snippets are stored under short
names and never change; the sizes of their parts are limited, and code that is shared is not blank.
-/

namespace LivePreview

/-- How a snippet came about. -/
inductive SnippetSource where
  | share
  /-- It was opened from a registry, and may be a stylesheet without code. -/
  | opened
deriving DecidableEq, Repr

namespace SnippetSource

def name : SnippetSource → String
  | share => "share"
  | opened => "open"

def ofName? (s : String) : Option SnippetSource :=
  if s = "share" then some share else if s = "open" then some opened else none

end SnippetSource

/-- The content of a snippet. -/
structure NewSnippet where
  code : String
  globalCss : Option String
  source : SnippetSource
deriving DecidableEq, Repr

namespace NewSnippet

def toJson (s : NewSnippet) : Json :=
  .obj [("code", .str s.code), ("globalCss", .ofOption .str s.globalCss),
    ("source", .str s.source.name)]

def ofJson? (j : Json) : Option NewSnippet := do
  let r ← j.record? ["code", "globalCss", "source"]
  let source := fun j => (Json.caseName? j).bind SnippetSource.ofName?
  return {
    code := ← r.required "code" Json.str?
    globalCss := ← r.optionalOrMissing "globalCss" Json.str?
    source := ← r.defaulted "source" source .share }

end NewSnippet

/-- How many bytes the parts of a snippet may have. -/
structure SnippetLimits where
  code : Nat
  globalCss : Nat
deriving DecidableEq, Repr

namespace SnippetLimits

def ofConfig (c : Config) : SnippetLimits := ⟨c.maxSnippetBytes, c.maxSnippetBytes⟩

/-- Why a snippet may not be stored, if there is a reason. -/
def refusal? (l : SnippetLimits) (s : NewSnippet) : Option PreviewError :=
  if s.source = .share ∧ Text.blank s.code then some (.missing "Code")
  else if l.code < s.code.utf8ByteSize then some (.tooLarge "Code" l.code)
  else if s.globalCss.any fun css => l.globalCss < css.utf8ByteSize then
    some (.tooLarge "globalCss" l.globalCss)
  else none

end SnippetLimits

namespace SnippetId

/-- The characters of a name. -/
def alphabet : List Char :=
  "0123456789ABCDEFGHIJKLMNOPQRSTUVWXYZabcdefghijklmnopqrstuvwxyz".toList

/-- The name that random bytes make: ten characters. -/
def ofBytes (bytes : List UInt8) : String :=
  String.ofList ((bytes.take 10).map fun b => alphabet.getD (b.toNat % alphabet.length) '0')

end SnippetId

/-- Snippets under their names. -/
structure SnippetStore where
  limits : SnippetLimits
  snippets : List (String × NewSnippet)
deriving DecidableEq, Repr

namespace SnippetStore

def empty (limits : SnippetLimits) : SnippetStore := ⟨limits, []⟩

/-- The snippet under a name. -/
def find? (s : SnippetStore) (id : String) : Option NewSnippet :=
  (s.snippets.find? fun e => e.1 = id).map (·.2)

/-- The first of some names that is not in use. -/
def freshId? (s : SnippetStore) (ids : List String) : Option String :=
  ids.find? fun id => (s.find? id).isNone

/-- Stores a snippet under the first of some names that is not in use; there is nothing to say if
all of them are. -/
def create (s : SnippetStore) (ids : List String) (snippet : NewSnippet) :
    Except PreviewError (Option (SnippetStore × String)) :=
  match s.limits.refusal? snippet with
  | some e => .error e
  | none =>
    .ok ((s.freshId? ids).map fun id => ({ s with snippets := s.snippets ++ [(id, snippet)] }, id))

/-- The snippet under a name. -/
def get (s : SnippetStore) (id : String) : Except PreviewError NewSnippet :=
  match s.find? id with
  | some snippet => .ok snippet
  | none => .error (.snippetNotFound id)

end SnippetStore

end LivePreview
