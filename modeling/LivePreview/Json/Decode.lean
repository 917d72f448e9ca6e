import LivePreview.Json.Read
/-!
# Reading records

A record is written as an object, with its fields in any order, each at most once and among others
that do not count, or as an array of its fields in order. A field is required, or it may be `null`
or missing, or it has a default. Only a default makes up for a field that an array is too short for.
-/

namespace LivePreview.Json

/-- The fields of a record that are given. -/
structure Record where
  values : List (String × Json)
  /-- Written as an array. -/
  isArray : Bool

/-- Whether no field is given twice. -/
def distinctKeys : List (String × Json) → Bool
  | [] => true
  | m :: r => !(r.any fun n => n.1 = m.1) && distinctKeys r

/-- A value as a record with the fields `names`. -/
def record? (names : List String) (j : Json) : Option Record :=
  match j with
  | obj members =>
    let known := members.filter fun m => names.contains m.1
    if distinctKeys known then some ⟨known, false⟩ else none
  | arr elements =>
    if elements.length ≤ names.length then some ⟨names.zip elements, true⟩ else none
  | _ => none

namespace Record

variable {α : Type} (r : Record) (key : String) (decode : Json → Option α)

/-- The value of a field, if it is given. -/
def value? : Option Json := (r.values.find? fun m => m.1 = key).map (·.2)

/-- A field that must be given. -/
def required : Option α := (r.value? key).bind decode

/-- A field with a default. -/
def defaulted (d : α) : Option α :=
  match r.value? key with
  | some j => decode j
  | none => some d

/-- A field that may be `null`, and may be missing in an object. -/
def optional : Option (Option α) :=
  match r.value? key with
  | some null => some none
  | some j => (decode j).map some
  | none => if r.isArray then none else some none

/-- A field that may be `null` or missing in either form. -/
def optionalOrMissing : Option (Option α) :=
  match r.value? key with
  | some null => some none
  | some j => (decode j).map some
  | none => some none

end Record

/-- A natural number below a limit. -/
def natBelow? (limit : Nat) (j : Json) : Option Nat := j.nat?.filter (· < limit)

/-- A word of 32 bits, and one of 64. -/
def word32? (j : Json) : Option Nat := j.natBelow? (Nat.pow 2 32)
def word64? (j : Json) : Option Nat := j.natBelow? (Nat.pow 2 64)

/-- A list whose elements can be read. -/
def list? {α : Type} (decode : Json → Option α) (j : Json) : Option (List α) :=
  j.arr?.bind fun elements => elements.mapM decode

/-- A value that may be `null`. -/
def nullable? {α : Type} (decode : Json → Option α) (j : Json) : Option (Option α) :=
  match j with
  | null => some none
  | j => (decode j).map some

/-- The value that a text holds, read by `decode`. -/
def decode? {α : Type} (decode : Json → Option α) (text : String) : Option α :=
  (readDocument? text).bind decode

/-- A natural number. -/
def ofNat (n : Nat) : Json := int n

/-- A list of texts. -/
def ofStrings (ss : List String) : Json := arr (ss.map str)

/-- A text or `null`. -/
def ofOption {α : Type} (encode : α → Json) (o : Option α) : Json :=
  match o with
  | some a => encode a
  | none => null

end LivePreview.Json
