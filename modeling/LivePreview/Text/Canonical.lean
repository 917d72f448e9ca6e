import LivePreview.Text.Canonical.Class
import LivePreview.Text.Canonical.Composite
/-!
# Canonical composition

Texts that differ only in how their characters are composed are one text. The form that stands for
all of them takes characters apart, orders the marks behind each letter by their classes, and
composes what can be composed. ASCII is in that form already.
-/

namespace LivePreview.Text

/-- The parts of a character; no composite is nested deeper than four. -/
def parts : (depth : Nat) → Char → List Char
  | 0, c => [c]
  | depth + 1, c =>
    match split? c with
    | some (a, b) => parts depth a ++ [b]
    | none => [c]

/-- Puts a character in front of ordered ones: a mark moves behind marks of lower classes. -/
def insertMark (c : Char) : List Char → List Char
  | [] => [c]
  | d :: r =>
    if combiningClass d ≠ 0 ∧ combiningClass d < combiningClass c then d :: insertMark c r
    else c :: d :: r

/-- Orders the marks behind each letter by their classes; marks of one class keep their order. -/
def orderMarks (s : List Char) : List Char := s.foldr insertMark []

/-- Composes a letter with what follows. The marks in between could not be composed; only a mark of
a higher class than all of them still reaches the letter. -/
def composeFrom (letter : Char) (between : List Char) : List Char → List Char
  | [] => letter :: between
  | c :: r =>
    let reached := between.all fun d => combiningClass d < combiningClass c
    match if reached then compose? letter c else none with
    | some joined => composeFrom joined between r
    | none =>
      if combiningClass c = 0 then letter :: between ++ composeFrom c [] r
      else composeFrom letter (between ++ [c]) r

/-- Composes all that can be composed. -/
def composeAll : List Char → List Char
  | [] => []
  | c :: r => composeFrom c [] r

/-- The form that stands for all texts that differ only in their composition. -/
def canonical (s : List Char) : List Char :=
  if s.all fun c => c.toNat < 128 then s else composeAll (orderMarks (s.flatMap (parts 4)))

end LivePreview.Text
