import LivePreview.Error
import LivePreview.Json.Decode
/-!
# Configuration

Every setting has a default, so the empty object is a complete configuration.
-/

namespace LivePreview

/-- The settings of a preview. Times are in milliseconds, sizes in bytes. -/
structure Config where
  /-- The quiet time after an edit before the source is transformed. -/
  debounce : Nat
  /-- How long a failing source must stay current before its error is shown. -/
  errorGrace : Nat
  /-- How many rounds the loops of a module may run in total. -/
  loopLimit : Nat
  /-- How many entries the console keeps. -/
  consoleCapacity : Nat
  cdnBase : String
  /-- Where packages outside of the import table are loaded from. -/
  fallbackTemplate : String
  uiBundleUrl : String
  utilsModuleUrl : String
  maxSnippetBytes : Nat
  maxRegistryBytes : Nat
deriving DecidableEq, Repr

namespace Config

/-- The settings that hold if nothing else is said. -/
def default : Config :=
  { debounce := 150
    errorGrace := 500
    loopLimit := 100000
    consoleCapacity := 500
    cdnBase := "https://esm.sh"
    fallbackTemplate := "https://esm.sh/\x7bspecifier\x7d?external=react,react-dom"
    uiBundleUrl := "/playground/modules/ui.js"
    utilsModuleUrl := "/playground/modules/utils.js"
    maxSnippetBytes := 102400
    maxRegistryBytes := 102400 }

instance : Inhabited Config := ⟨default⟩

/-- The names of the settings, in order. -/
def fieldNames : List String :=
  ["debounceMs", "errorGraceMs", "loopGuardThreshold", "consoleCapacity", "cdnBase",
   "fallbackUrlTemplate", "uiBundleUrl", "utilsModuleUrl", "maxSnippetBytes", "maxRegistryBytes"]

/-- Reads settings; each one that is not given has its default. -/
def ofJson? (j : Json) : Option Config := do
  let r ← j.record? fieldNames
  return {
    debounce := ← r.defaulted "debounceMs" Json.word64? default.debounce
    errorGrace := ← r.defaulted "errorGraceMs" Json.word64? default.errorGrace
    loopLimit := ← r.defaulted "loopGuardThreshold" Json.word32? default.loopLimit
    consoleCapacity := ← r.defaulted "consoleCapacity" Json.word64? default.consoleCapacity
    cdnBase := ← r.defaulted "cdnBase" Json.str? default.cdnBase
    fallbackTemplate := ← r.defaulted "fallbackUrlTemplate" Json.str? default.fallbackTemplate
    uiBundleUrl := ← r.defaulted "uiBundleUrl" Json.str? default.uiBundleUrl
    utilsModuleUrl := ← r.defaulted "utilsModuleUrl" Json.str? default.utilsModuleUrl
    maxSnippetBytes := ← r.defaulted "maxSnippetBytes" Json.word64? default.maxSnippetBytes
    maxRegistryBytes := ← r.defaulted "maxRegistryBytes" Json.word64? default.maxRegistryBytes }

/-- The settings that a text holds. -/
def parse (text : String) : Except PreviewError Config :=
  match Json.decode? ofJson? text with
  | some c => .ok c
  | none => .error .configuration

/-- The settings as a JSON value. -/
def toJson (c : Config) : Json :=
  .obj
    [("debounceMs", .ofNat c.debounce), ("errorGraceMs", .ofNat c.errorGrace),
     ("loopGuardThreshold", .ofNat c.loopLimit), ("consoleCapacity", .ofNat c.consoleCapacity),
     ("cdnBase", .str c.cdnBase), ("fallbackUrlTemplate", .str c.fallbackTemplate),
     ("uiBundleUrl", .str c.uiBundleUrl), ("utilsModuleUrl", .str c.utilsModuleUrl),
     ("maxSnippetBytes", .ofNat c.maxSnippetBytes), ("maxRegistryBytes", .ofNat c.maxRegistryBytes)]

end Config

end LivePreview
