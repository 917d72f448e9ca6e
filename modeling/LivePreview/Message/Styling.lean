import LivePreview.Json.Tagged
/-!
# Asking for stylesheets

A request has a number, and the response to it has the same one. A response without a number is
about the worker itself: it is ready, or it will never be.
-/

namespace LivePreview

/-- A request for the stylesheet of a set of candidates. -/
structure StyleRequest where
  candidates : List String
  id : Nat
deriving DecidableEq, Repr

namespace StyleRequest

def toJson (r : StyleRequest) : Json :=
  Json.ofTagged "compile" [("candidates", .ofStrings r.candidates), ("id", .ofNat r.id)]

def ofTagged? (t : Json.Tagged) : Option StyleRequest :=
  if t.tag ≠ "compile" then none
  else do
    let r ← t.fields? ["candidates", "id"]
    return ⟨← r.required "candidates" (Json.list? Json.str?), ← r.required "id" Json.word64?⟩

def ofJson? (j : Json) : Option StyleRequest := j.tagged?.bind ofTagged?

end StyleRequest

/-- A response of the worker. -/
inductive StyleResponse where
  | ready
  /-- The stylesheet for a request. -/
  | css (text : String) (id : Nat)
  /-- Why there is no stylesheet for a request, or none at all. -/
  | failed (message : String) (id : Option Nat)
deriving DecidableEq, Repr

namespace StyleResponse

def toJson : StyleResponse → Json
  | ready => Json.ofTagged "ready" []
  | css text id => Json.ofTagged "css" [("css", .str text), ("id", .ofNat id)]
  | failed message id =>
    Json.ofTagged "error" (("message", .str message) :: Json.optionalField "id" .ofNat id)

def ofTagged? (t : Json.Tagged) : Option StyleResponse :=
  match t.tag with
  | "ready" => (t.fields? []).map fun _ => ready
  | "css" => do
    let r ← t.fields? ["css", "id"]
    return css (← r.required "css" Json.str?) (← r.required "id" Json.word64?)
  | "error" => do
    let r ← t.fields? ["message", "id"]
    return failed (← r.required "message" Json.str?) (← r.optionalOrMissing "id" Json.word64?)
  | _ => none

def ofJson? (j : Json) : Option StyleResponse := j.tagged?.bind ofTagged?

end StyleResponse

end LivePreview
