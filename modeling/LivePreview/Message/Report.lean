import LivePreview.Json.Tagged
/-!
# What the realm reports to the host

The realm announces itself, and then reports for each module whether it could be shown, what goes
wrong later, and what the module writes to the console.
-/

namespace LivePreview

/-- The levels of a console. -/
inductive ConsoleMethod where
  | log
  | warn
  | error
  | info
deriving DecidableEq, Repr

namespace ConsoleMethod

/-- The name of a level. -/
def name : ConsoleMethod → String
  | log => "log"
  | warn => "warn"
  | error => "error"
  | info => "info"

def all : List ConsoleMethod := [log, warn, error, info]

def ofName? (s : String) : Option ConsoleMethod := all.find? fun m => m.name = s

def toJson (m : ConsoleMethod) : Json := .str m.name

def ofJson? (j : Json) : Option ConsoleMethod := (Json.caseName? j).bind ofName?

end ConsoleMethod

/-- Something that went wrong in a running module. -/
structure Failure where
  message : String
  stack : Option String
deriving DecidableEq, Repr

namespace Failure

def fieldNames : List String := ["message", "stack"]

def fields (f : Failure) : List (String × Json) :=
  ("message", .str f.message) :: Json.optionalField "stack" .str f.stack

def ofRecord? (r : Json.Record) : Option Failure := do
  return ⟨← r.required "message" Json.str?, ← r.optionalOrMissing "stack" Json.str?⟩

def toJson (f : Failure) : Json := .obj f.fields

def ofJson? (j : Json) : Option Failure := (j.record? fieldNames).bind ofRecord?

end Failure

/-- A message from the realm to the host. -/
inductive Report where
  /-- The realm can take payloads now. -/
  | ready
  /-- A module is shown, or it has nothing to show. -/
  | rendered
  | failed (failure : Failure)
  | logged (method : ConsoleMethod) (args : List String)
deriving DecidableEq, Repr

namespace Report

/-- The name of a report's kind. -/
def kind : Report → String
  | ready => "iframe-ready"
  | rendered => "render-complete"
  | failed _ => "runtime-error"
  | logged _ _ => "console"

def fields : Report → List (String × Json)
  | failed f => f.fields
  | logged method args => [("method", .str method.name), ("args", .ofStrings args)]
  | _ => []

def toJson (r : Report) : Json := Json.ofTagged r.kind r.fields

def ofTagged? (t : Json.Tagged) : Option Report :=
  match t.tag with
  | "iframe-ready" => (t.fields? []).map fun _ => ready
  | "render-complete" => (t.fields? []).map fun _ => rendered
  | "runtime-error" => ((t.fields? Failure.fieldNames).bind Failure.ofRecord?).map failed
  | "console" => do
    let r ← t.fields? ["method", "args"]
    let name ← r.required "method" Json.caseNameWithin?
    return logged (← ConsoleMethod.ofName? name) (← r.required "args" (Json.list? Json.str?))
  | _ => none

def ofJson? (j : Json) : Option Report := j.tagged?.bind ofTagged?

end Report

end LivePreview
