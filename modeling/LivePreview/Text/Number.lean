import LivePreview.Decimal.Shortest
import LivePreview.Text.Letters
/-!
# Natural numbers in texts

A number may have a plus sign in front and zeros at its start, and must fit 32 bits.
-/

namespace LivePreview.Text

/-- Whether a text is a run of decimal digits; the empty text is none. -/
def isDigits (s : List Char) : Bool := s ≠ [] && s.all isAsciiDigit

/-- The number that digits stand for, if it fits 32 bits. -/
def wordOfDigits? (s : List Char) : Option Nat :=
  if isDigits s then
    let n := Decimal.ofDigits s
    if n < Nat.pow 2 32 then some n else none
  else none

/-- The number that a text stands for, if it fits 32 bits. -/
def word? (s : String) : Option Nat :=
  match s.toList with
  | '+' :: r => wordOfDigits? r
  | r => wordOfDigits? r

/-- The decimal text of a natural number. -/
def ofNat (n : Nat) : String := String.ofList (Decimal.digitsOf n)

end LivePreview.Text
