import LivePreview.Style.Value
/-!
# Variants

A variant puts a condition on a rule: a state of the element itself or of an element around or
before it, a part of the element, the dark scheme, the width of the screen, or a selector that is
written out. The conditions of a stack are applied from left to right; only the part of the element
goes to the end of the selector, wherever it stands in the stack.
-/

namespace LivePreview.Style

/-- What a variant asks for. -/
inductive Variant where
  /-- The element is in a state. -/
  | state (selector : String)
  /-- A part of the element. -/
  | part (selector : String)
  /-- An element of class `group` around it is in a state. -/
  | group (state : String)
  /-- An element of class `peer` before it is in a state. -/
  | peer (state : String)
  /-- The dark scheme. -/
  | dark
  /-- The screen has at least a width; wider ones have a higher rank. -/
  | width (rank : Nat) (least : String)
  /-- A selector in which `&` stands for the element. -/
  | template (selector : String)
deriving DecidableEq, Repr

namespace Variant

/-- The states with names. -/
def states : List (String × String) :=
  [("hover", ":hover"), ("focus", ":focus"), ("focus-visible", ":focus-visible"),
   ("focus-within", ":focus-within"), ("active", ":active"), ("visited", ":visited"),
   ("disabled", ":disabled"), ("enabled", ":enabled"), ("checked", ":checked"),
   ("required", ":required"), ("invalid", ":invalid"), ("read-only", ":read-only"),
   ("first", ":first-child"), ("last", ":last-child"), ("only", ":only-child"),
   ("odd", ":nth-child(odd)"), ("even", ":nth-child(even)"), ("empty", ":empty")]

/-- The parts of an element. -/
def parts : List (String × String) :=
  [("before", "::before"), ("after", "::after"), ("placeholder", "::placeholder"),
   ("selection", "::selection"), ("marker", "::marker"), ("file", "::file-selector-button")]

/-- The widths of screens with their ranks, from the smallest on. -/
def widths : List (String × Nat × String) :=
  [("sm", 1, "40rem"), ("md", 2, "48rem"), ("lg", 3, "64rem"), ("xl", 4, "80rem"),
   ("2xl", 5, "96rem")]

/-- What stands in square brackets, if it is not empty. -/
def bracketed? (s : String) : Option String :=
  (inside? "[" "]" s).filter (· ≠ "")

/-- The selector for an attribute, perhaps with its value in brackets. -/
def attribute? (family name : String) : Option String :=
  match inside? "[" "]" name with
  | some inner => if inner = "" then none else some ("[" ++ family ++ "-" ++ inner ++ "]")
  | none => if name = "" then none else some ("[" ++ family ++ "-" ++ name ++ "]")

/-- The selector for what an element contains. -/
def contained? (s : String) : Option String :=
  match bracketed? s with
  | some selector => some (Text.replace "_" " " selector)
  | none => (lookup? states s).map ("*" ++ ·)

/-- The selector for a state of an element. -/
def state? (s : String) : Option String :=
  match lookup? states s with
  | some selector => some selector
  | none =>
    match Text.after? "data-" s with
    | some name => attribute? "data" name
    | none =>
      match Text.after? "aria-" s with
      | some name =>
        if Text.startsWith "[" name then attribute? "aria" name
        else if name = "" then none
        else some ("[aria-" ++ name ++ "=\"true\"]")
      | none =>
        match Text.after? "has-" s with
        | some inner => (contained? inner).map fun c => ":has(" ++ c ++ ")"
        | none => none

/-- The width of the screen that a name stands for. -/
def width? (s : String) : Option Variant :=
  (widths.find? fun w => w.1 = s).map fun w => width w.2.1 w.2.2

/-- A selector that is written out; it names the element. -/
def template? (s : String) : Option Variant :=
  (bracketed? s).bind fun t => if Text.occurs "&" t then some (template t) else none

/-- The variant that a name stands for. -/
def parse? (s : String) : Option Variant :=
  match state? s with
  | some selector => some (state selector)
  | none =>
    match lookup? parts s with
    | some selector => some (part selector)
    | none =>
      match Text.after? "group-" s with
      | some name => (state? name).map group
      | none =>
        match Text.after? "peer-" s with
        | some name => (state? name).map peer
        | none => if s = "dark" then some dark else (width? s).or (template? s)

end Variant

/-- A selector with the conditions of a stack of variants. -/
structure Scope where
  selector : String
  media : List String
  /-- The highest rank of the widths, zero without any. -/
  rank : Nat
deriving DecidableEq, Repr

namespace Scope

/-- The element itself, in all circumstances. -/
def ofSelector (selector : String) : Scope := ⟨selector, [], 0⟩

/-- Adds the condition of a variant; `darkVariant` says what the dark scheme is, with `&` for the
element. A part of the element is left out. -/
def add (darkVariant : String) (s : Scope) : Variant → Scope
  | .state selector => { s with selector := s.selector ++ selector }
  | .part _ => s
  | .group state => { s with selector := ".group" ++ state ++ " " ++ s.selector }
  | .peer state => { s with selector := ".peer" ++ state ++ " ~ " ++ s.selector }
  | .dark => { s with selector := Text.replace "&" s.selector darkVariant }
  | .width rank least =>
    { s with media := s.media ++ ["(min-width: " ++ least ++ ")"], rank := max s.rank rank }
  | .template t => { s with selector := Text.replace "&" s.selector (Text.replace "_" " " t) }

/-- The part of the element that a variant asks for. -/
def part? : Variant → Option String
  | .part selector => some selector
  | _ => none

/-- The last part of the element that a stack asks for, or nothing. -/
def lastPart (variants : List Variant) : String :=
  ((variants.filterMap part?).getLast?).getD ""

/-- The selector with the conditions of a stack. -/
def ofStack (darkVariant selector : String) (variants : List Variant) : Scope :=
  let s := variants.foldl (add darkVariant) (ofSelector selector)
  { s with selector := s.selector ++ lastPart variants }

/-- The selector with the conditions of a stack of names; every name must be known. -/
def ofVariants? (darkVariant selector : String) (names : List String) : Option Scope :=
  (names.mapM Variant.parse?).map (ofStack darkVariant selector)

end Scope

end LivePreview.Style
