import LivePreview.Json.Decode
/-!
# Reading tagged records

A value with several cases names its case: as an object in the member `type`, which may stand
anywhere but only once, or as an array in front. What remains are the fields of that case, as an
object or as an array. The name of a case without fields may also be the only member of an object.
-/

namespace LivePreview.Json

/-- A case with its fields. -/
structure Tagged where
  tag : String
  content : Json

/-- The member of an object that names its case. -/
def tagKey : String := "type"

/-- A value as a case with its fields, all of which must have values. -/
def tagged? (j : Json) : Option Tagged :=
  match j with
  | obj members =>
    match members.filter (fun m => m.1 = tagKey), members.filter (fun m => m.1 ≠ tagKey) with
    | [(_, str tag)], rest => if soundMembers rest then some ⟨tag, obj rest⟩ else none
    | _, _ => none
  | arr (str tag :: rest) => if soundElements rest then some ⟨tag, arr rest⟩ else none
  | _ => none

/-- The fields of a case. -/
def Tagged.fields? (t : Tagged) (names : List String) : Option Record := t.content.record? names

/-- A case with its fields, as an object. -/
def ofTagged (tag : String) (fields : List (String × Json)) : Json :=
  obj ((tagKey, str tag) :: fields)

/-- A field that is left out if it has no value. -/
def optionalField {α : Type} (key : String) (encode : α → Json) (o : Option α) :
    List (String × Json) :=
  match o with
  | some a => [(key, encode a)]
  | none => []

/-- The name of a case without fields. -/
def caseName? (j : Json) : Option String :=
  match j with
  | str s => some s
  | obj [(s, null)] => some s
  | _ => none

/-- The name of a case without fields within a tagged value, where the empty object stands for no
fields, too. -/
def caseNameWithin? (j : Json) : Option String :=
  match j with
  | obj [(s, obj [])] => some s
  | j => caseName? j

end LivePreview.Json
