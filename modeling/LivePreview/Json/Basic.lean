import LivePreview.Decimal.Shortest
/-!
# JSON values

A value of the data format, with the members of an object in document order. Whole numbers that fit
64 bits are kept apart from all others, which are doubles; the two kinds are never equal and are
written differently.
-/

namespace LivePreview

/-- A JSON value. -/
inductive Json where
  | null
  | bool (b : Bool)
  /-- A whole number; readers only build those between `-2^63` and `2^64 - 1`. -/
  | int (i : Int)
  | float (x : Float)
  | str (s : String)
  | arr (elements : List Json)
  /-- The members in order; a repeated key is two members. -/
  | obj (members : List (String × Json))
  /-- Well-formed text without a value: a number out of range, half of a surrogate pair, or a
  container that is nested too deep. -/
  | refused
deriving Inhabited

namespace Json

/-- The value of the first member with the key, if the value is an object that has one. -/
def get? (j : Json) (key : String) : Option Json :=
  match j with
  | obj members => (members.find? fun m => m.1 = key).map (·.2)
  | _ => none

def str? : Json → Option String
  | str s => some s
  | _ => none

def arr? : Json → Option (List Json)
  | arr elements => some elements
  | _ => none

def obj? : Json → Option (List (String × Json))
  | obj members => some members
  | _ => none

def bool? : Json → Option Bool
  | bool b => some b
  | _ => none

/-- The whole number, if it is one without sign. -/
def nat? : Json → Option Nat
  | int (.ofNat n) => some n
  | _ => none

/-- Sets a member: a new key goes to the end, a known one keeps its place. -/
def setMember {α : Type} (key : String) (value : α) : List (String × α) → List (String × α)
  | [] => [(key, value)]
  | (k, v) :: r => if k = key then (k, value) :: r else (k, v) :: setMember key value r

/-- The members with each key once, at the place of its first member and with the value of its
last. -/
def mergeMembers (members : List (String × Json)) : List (String × Json) :=
  members.foldl (fun acc m => setMember m.1 m.2 acc) []

mutual

/-- The value in which every object has each key once: at its first place, with its last value. -/
def merged : Json → Json
  | arr elements => arr (mergedElements elements)
  | obj members => obj (mergeMembers (mergedMembers members))
  | j => j

/-- `merged` in each element. -/
def mergedElements : List Json → List Json
  | [] => []
  | j :: r => merged j :: mergedElements r

/-- `merged` in the value of each member. -/
def mergedMembers : List (String × Json) → List (String × Json)
  | [] => []
  | (k, j) :: r => (k, merged j) :: mergedMembers r

end

mutual

/-- Whether everything in the value has a value. -/
def sound : Json → Bool
  | refused => false
  | arr elements => soundElements elements
  | obj members => soundMembers members
  | _ => true

def soundElements : List Json → Bool
  | [] => true
  | j :: r => sound j && soundElements r

def soundMembers : List (String × Json) → Bool
  | [] => true
  | (_, j) :: r => sound j && soundMembers r

end

end Json

end LivePreview
