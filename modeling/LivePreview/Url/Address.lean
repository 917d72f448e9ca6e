import LivePreview.Text.Blank
import LivePreview.Text.Case
import LivePreview.Text.Search
import LivePreview.Url.Percent
/-!
# Numeric addresses

An address of the fourth version is one number of 32 bits, in up to four parts, each of which may be
decimal, octal or hexadecimal; the last part fills up what is left. An address of the sixth version
has eight pieces of 16 bits, in which one run of zeros may be left out and whose end may be written
as an address of the fourth version. Both are printed in one way only.
-/

namespace LivePreview.Url

/-- The number that digits stand for. -/
def digitsValue (base : Nat) (digits : List Nat) : Nat :=
  digits.foldl (fun n d => n * base + d) 0

/-- The number that a text stands for, if all of it is digits; nothing stands for zero. -/
def number? (base : Nat) (s : List Char) : Option Nat :=
  (s.mapM fun c => (Percent.hexValue? c).filter (· < base)).map (digitsValue base)

namespace Ipv4

/-- The value of a part: hexadecimal behind `0x`, octal behind another zero. -/
def part? (s : List Char) : Option Nat :=
  match s with
  | [] => none
  | '0' :: 'x' :: r => number? 16 r
  | '0' :: 'X' :: r => number? 16 r
  | '0' :: c :: r => number? 8 (c :: r)
  | s => number? 10 s

/-- The parts of a host without an empty one at the end. -/
def parts (s : List Char) : List (List Char) :=
  let ps := Text.splitWhen (· == '.') s
  if ps.getLast? = some [] then ps.dropLast else ps

/-- Whether the last part of a host is a number; then the host is an address or nothing. -/
def endsInNumber (s : List Char) : Bool :=
  match (parts s).getLast? with
  | some last => last ≠ [] && (last.all Text.isAsciiDigit || (part? last).isSome)
  | none => false

/-- The address of some numbers: each but the last one is a byte, and the last one fills up the
rest. -/
def ofNumbers? (numbers : List Nat) : Option Nat :=
  let front := numbers.dropLast
  match numbers.getLast? with
  | some last =>
    if front.length ≤ 3 ∧ front.all (· < 256) ∧ last < Nat.pow 256 (4 - front.length) then
      some (digitsValue 256 front * Nat.pow 256 (4 - front.length) + last)
    else none
  | none => none

/-- Reads an address. -/
def parse? (s : List Char) : Option Nat := ((parts s).mapM part?).bind ofNumbers?

/-- The bytes of an address. -/
def octets (a : Nat) : List Nat := [a / 16777216 % 256, a / 65536 % 256, a / 256 % 256, a % 256]

/-- Prints an address. -/
def text (a : Nat) : String := Text.joinWith "." ((octets a).map toString)

end Ipv4

namespace Ipv6

/-- A decimal byte without zeros in front. -/
def octet? (s : List Char) : Option Nat :=
  if s = [] ∨ (s.length ≠ 1 ∧ s.head? = some '0') then none else (number? 10 s).filter (· < 256)

/-- The two pieces that an address of the fourth version stands for. -/
def embedded? (s : List Char) : Option (List Nat) := do
  match ← (Text.splitWhen (· == '.') s).mapM octet? with
  | [a, b, c, d] => some [a * 256 + b, c * 256 + d]
  | _ => none

/-- The piece in front of a text, of at most four digits, and what follows it. -/
def piece (s : List Char) : Nat × List Char :=
  let digits := (s.take 4).takeWhile fun c => (Percent.hexValue? c).isSome
  ((number? 16 digits).getD 0, s.drop digits.length)

/-- Reads pieces up to the end. A second colon in a row, at most once, stands for a run of zeros;
its place is behind a first zero that belongs to the run. -/
def pieces? : (fuel : Nat) → List Char → List Nat → Option Nat → Option (List Nat × Option Nat)
  | 0, _, _, _ => none
  | _ + 1, [], ps, gap => some (ps, gap)
  | fuel + 1, c :: r, ps, gap =>
    if ps.length = 8 then none
    else if c = ':' then
      if gap.isSome then none else pieces? fuel r (ps ++ [0]) (some (ps.length + 1))
    else
      let (n, rest) := piece (c :: r)
      match rest with
      | [] => some (ps ++ [n], gap)
      | ':' :: [] => none
      | ':' :: more => pieces? fuel more (ps ++ [n]) gap
      | '.' :: _ =>
        if 6 < ps.length then none else (embedded? (c :: r)).map fun last => (ps ++ last, gap)
      | _ => none

/-- Fills up a run of zeros. -/
def fill? (ps : List Nat) (gap : Option Nat) : Option (List Nat) :=
  match gap with
  | some k => some (ps.take k ++ List.replicate (8 - ps.length) 0 ++ ps.drop k)
  | none => if ps.length = 8 then some ps else none

/-- Reads the pieces of an address. -/
def parse? (s : List Char) : Option (List Nat) :=
  let start : Option (List Char × List Nat × Option Nat) :=
    match s with
    | ':' :: ':' :: r => some (r, [0], some 1)
    | ':' :: _ => none
    | [] => none
    | [_] => none
    | s => some (s, [], none)
  start.bind fun (s, ps, gap) => (pieces? (s.length + 1) s ps gap).bind fun p => fill? p.1 p.2

/-- The lengths of the runs of zeros that begin at each piece. -/
def zeroRuns : List Nat → List Nat
  | [] => []
  | p :: r => (if p = 0 then (zeroRuns r).headD 0 + 1 else 0) :: zeroRuns r

/-- The first of the longest runs of zeros, if it has at least two: where it begins and how long it
is. -/
def longestZeros? (ps : List Nat) : Option (Nat × Nat) :=
  let runs := zeroRuns ps
  let longest := runs.foldl max 0
  if longest < 2 then none else some (runs.findIdx (· == longest), longest)

/-- Prints a piece. -/
def pieceText (p : Nat) : String := String.ofList (Nat.toDigits 16 p)

/-- Prints the pieces of an address; the first of the longest runs of zeros is left out. -/
def text (ps : List Nat) : String :=
  let joined := fun ps => Text.joinWith ":" (ps.map pieceText)
  match longestZeros? ps with
  | some (start, length) => joined (ps.take start) ++ "::" ++ joined (ps.drop (start + length))
  | none => joined ps

end Ipv6

end LivePreview.Url
