import LivePreview.Style.Value
/-!
# Utilities

A utility is what one class does: its declarations, and whether they apply to the element or to its
children. A class with a prefix takes the rest of its name as a value.
-/

namespace LivePreview.Style

/-- A property with its value. -/
abbrev Declaration := String × String

/-- What a class does. -/
structure Utility where
  declarations : List Declaration
  /-- What follows the element's selector if the children are styled. -/
  child : Option String
deriving DecidableEq, Repr

namespace Utility

/-- Declarations for the element itself. -/
def ofList (declarations : List Declaration) : Utility := ⟨declarations, none⟩

/-- One declaration. -/
def one (property value : String) : Utility := ofList [(property, value)]

/-- The same value for some properties. -/
def same (properties : List String) (value : String) : Utility :=
  ofList (properties.map fun p => (p, value))

/-- The utility of a class in a table. -/
def inTable? (table : List (String × List Declaration)) (c : String) : Option Utility :=
  (table.find? fun e => e.1 = c).map fun e => ofList e.2

/-- The first prefix that a class has, with what belongs to it and the rest of the class. -/
def cutPrefix? {α : Type} (table : List (String × α)) (c : String) : Option (α × String) :=
  table.findSome? fun e => (Text.after? e.1 c).map fun rest => (e.2, rest)

/-- Whether a class has a minus sign in front, and the rest. -/
def sign (c : String) : Bool × String :=
  match Text.after? "-" c with
  | some rest => (true, rest)
  | none => (false, c)

/-- The rest of a class behind a word: nothing, or what follows a dash. -/
def tail? (word : String) (c : String) : Option String :=
  match Text.after? word c with
  | some "" => some ""
  | some rest => Text.after? "-" rest
  | none => none

end Utility

end LivePreview.Style
