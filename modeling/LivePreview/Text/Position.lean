import LivePreview.Text.Blank
import LivePreview.Text.Search
/-!
# Positions in a text

A position is a line, counted from one, and a column, counted in characters from zero. Offsets count
either characters or bytes of the UTF-8 encoding; an offset inside of a character is moved to its
start, and one behind the end to the end. Lines and columns are numbers of any size;
words of 32 bits hold the same ones as long as these are below `2 ^ 32`.
-/

namespace LivePreview.Text

/-- A line, counted from one, and a column, counted from zero. -/
structure Position where
  line : Nat
  column : Nat
deriving DecidableEq, Repr

namespace Position

/-- The position behind a text. -/
def behind (before : List Char) : Position :=
  { line := before.count '\n' + 1
    column := (before.reverse.takeWhile (· != '\n')).length }

/-- The position of an offset in characters. -/
def atChar (source : List Char) (offset : Nat) : Position := behind (source.take offset)

/-- The characters that end within the first `n` bytes. -/
def takeBytes : Nat → List Char → List Char
  | _, [] => []
  | n, c :: r => if c.utf8Size ≤ n then c :: takeBytes (n - c.utf8Size) r else []

/-- The position of an offset in bytes. -/
def atByte (source : List Char) (offset : Nat) : Position := behind (takeBytes offset source)

/-- Where a text stands in quotes on a line, double ones before single ones: the characters in front
of the quote. -/
def quotedColumn? (text line : List Char) : Option Nat :=
  match cutChars? ('"' :: text ++ ['"']) line with
  | some (before, _) => some before.length
  | none => (cutChars? ('\'' :: text ++ ['\'']) line).map fun p => p.1.length

/-- The first line on which a text stands in quotes, counted from `line`, and the column behind the
quote. -/
def quoted? (text : List Char) : Nat → List (List Char) → Option Position
  | _, [] => none
  | line, l :: r =>
    match quotedColumn? text l with
    | some column => some ⟨line, column + 1⟩
    | none => quoted? text (line + 1) r

/-- Where a text stands in quotes, or else where it stands at all, or else the start. -/
def ofQuoted (text source : List Char) : Position :=
  match quoted? text 1 (splitWhen (· == '\n') source) with
  | some p => p
  | none =>
    match cutChars? text source with
    | some (before, _) => behind before
    | none => ⟨1, 0⟩

end Position

end LivePreview.Text
