import LivePreview.Text.Blank
import LivePreview.Text.Case
import LivePreview.Text.Search
/-!
# Labels

Names in files have dashes between their words; labels have blanks there, and capitals. Labels are
ordered the way people do it: without regard to case, and by value where there are numbers.
-/

namespace LivePreview.Example

/-! ## Words with capitals -/

/-- A word with its first letter in upper case. -/
def capitalize : List Char → List Char
  | [] => []
  | c :: r => Text.upper c ++ r

/-- The words between dashes, each with a capital. -/
def titleCase (s : String) : String :=
  let words := (Text.splitWhen (· == '-') s.toList).filter (· ≠ [])
  Text.joinWith " " (words.map fun w => String.ofList (capitalize w))

/-- The label of a component. -/
def componentLabel (id : String) : String := titleCase id

/-- The label of an example of a component. -/
def exampleLabel (name : String) : String := titleCase (if name = "" then "demo" else name)

/-! ## Natural order -/

/-- A piece of a label that is compared as a whole. -/
inductive Piece where
  /-- Digits, as many as stand together. -/
  | number (digits : List Char)
  /-- Any other character, in lower case. -/
  | letter (lower : List Char)
deriving DecidableEq, Repr

/-- The pieces of a label. -/
def pieces : List Char → List Piece
  | [] => []
  | c :: r =>
    if Text.isAsciiDigit c then
      match pieces r with
      | .number ds :: ps => .number (c :: ds) :: ps
      | ps => .number [c] :: ps
    else .letter (Text.lower c) :: pieces r

/-- The digits of a number without zeros in front. -/
def significant (digits : List Char) : List Char := digits.dropWhile (· == '0')

/-- The order of texts by their characters. -/
def compareChars : List Char → List Char → Ordering
  | [], [] => .eq
  | [], _ :: _ => .lt
  | _ :: _, [] => .gt
  | a :: r, b :: s => (compare a b).then (compareChars r s)

/-- The order of pieces: numbers by value, all else by characters. -/
def Piece.compare : Piece → Piece → Ordering
  | .number a, .number b =>
    let a := significant a
    let b := significant b
    (Ord.compare a.length b.length).then (compareChars a b)
  | .number a, .letter b => compareChars (a.take 1) b
  | .letter a, .number b => compareChars a (b.take 1)
  | .letter a, .letter b => compareChars a b

/-- The order of labels by their pieces. -/
def comparePieces : List Piece → List Piece → Ordering
  | [], [] => .eq
  | [], _ :: _ => .lt
  | _ :: _, [] => .gt
  | a :: r, b :: s => (a.compare b).then (comparePieces r s)

/-- The natural order of labels; labels with equal pieces are ordered by their characters. -/
def naturalCompare (a b : String) : Ordering :=
  (comparePieces (pieces a.toList) (pieces b.toList)).then (compareChars a.toList b.toList)

/-- Orders by labels; what has equal labels keeps its order. -/
def sortByLabel {α : Type} (label : α → String) (xs : List α) : List α :=
  xs.mergeSort fun a b => (naturalCompare (label a) (label b)).isLE

end LivePreview.Example
