import LivePreview.Error
import LivePreview.Json.Print
import LivePreview.Json.Read
import LivePreview.Json.Decode
/-!
# The index of examples

The index lists components with their examples. It is a record of records; of a document that is
fetched more is asked, namely that every id, label, path and code in it is not empty.
-/

namespace LivePreview

/-- An example of how a component is used. -/
structure Example where
  id : String
  label : String
  sourcePath : String
  code : String
deriving DecidableEq, Repr

/-- A component with its examples. -/
structure ComponentExamples where
  id : String
  label : String
  examples : List Example
deriving DecidableEq, Repr

/-- The components with their examples. -/
structure ExampleIndex where
  components : List ComponentExamples
deriving DecidableEq, Repr

namespace Example

def fieldNames : List String := ["id", "label", "sourcePath", "code"]

def toJson (e : Example) : Json :=
  .obj [("id", .str e.id), ("label", .str e.label), ("sourcePath", .str e.sourcePath),
    ("code", .str e.code)]

def ofJson? (j : Json) : Option Example := do
  let r ← j.record? fieldNames
  return {
    id := ← r.required "id" Json.str?
    label := ← r.required "label" Json.str?
    sourcePath := ← r.required "sourcePath" Json.str?
    code := ← r.required "code" Json.str? }

/-- Whether a member is a text and not empty. -/
def filled (j : Json) (key : String) : Bool := ((j.get? key).bind Json.str?).any (· ≠ "")

/-- Whether a value is an example with all that it needs. -/
def isComplete (j : Json) : Bool := j.obj?.isSome && fieldNames.all (filled j)

end Example

namespace ComponentExamples

def toJson (c : ComponentExamples) : Json :=
  .obj [("id", .str c.id), ("label", .str c.label),
    ("examples", .arr (c.examples.map Example.toJson))]

def ofJson? (j : Json) : Option ComponentExamples := do
  let r ← j.record? ["id", "label", "examples"]
  return {
    id := ← r.required "id" Json.str?
    label := ← r.required "label" Json.str?
    examples := ← r.required "examples" (Json.list? Example.ofJson?) }

/-- Whether a value is a component with all that it and its examples need. -/
def isComplete (j : Json) : Bool :=
  j.obj?.isSome && Example.filled j "id" && Example.filled j "label" &&
    ((j.get? "examples").bind Json.arr?).any fun examples => examples.all Example.isComplete

end ComponentExamples

namespace ExampleIndex

def toJson (i : ExampleIndex) : Json :=
  .obj [("components", .arr (i.components.map ComponentExamples.toJson))]

def ofJson? (j : Json) : Option ExampleIndex := do
  let r ← j.record? ["components"]
  return ⟨← r.required "components" (Json.list? ComponentExamples.ofJson?)⟩

/-- The document of an index. -/
def text (i : ExampleIndex) : String := i.toJson.compact

/-- Reads the document of an index. -/
def parse (text : String) : Except PreviewError ExampleIndex :=
  match Json.parse? text with
  | none => .error (.malformedIndex "<parse error>")
  | some (.obj members) =>
    match ((Json.obj members).get? "components").bind Json.arr? with
    | none => .error (.malformedIndex "components must be an array")
    | some components =>
      if !components.all ComponentExamples.isComplete then
        .error (.malformedIndex "malformed component or example entry")
      else
        match components.mapM ComponentExamples.ofJson? with
        | none => .error (.malformedIndex "<parse error>")
        | some components => .ok ⟨components⟩
  | some _ => .error (.malformedIndex "expected object")

/-- The component with an id. -/
def component? (i : ExampleIndex) (id : String) : Option ComponentExamples :=
  i.components.find? fun c => c.id = id

/-- The example with an id, in any component. -/
def example? (i : ExampleIndex) (id : String) : Option Example :=
  (i.components.flatMap (·.examples)).find? fun e => e.id = id

end ExampleIndex

end LivePreview
