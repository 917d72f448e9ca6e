import LivePreview.Json.Basic
import LivePreview.Text.Letters
/-!
# Reading JSON

The reader is strict: no comments, no trailing commas, nothing after the value. A whole number that
fits 64 bits is kept as such; any other number is a significand of at most 64 bits, scaled by a
power of ten in binary floating point. Containers nest at most 127 deep, escapes of surrogates come
in pairs, and numbers are finite: what breaks one of these limits is well-formed but `refused`.

`readDocument?` keeps repeated keys and what is refused, for readers that look at some members only;
`parse?` merges the keys and takes nothing that is refused.
-/

namespace LivePreview.Json

/-- The characters that may stand between tokens. -/
def isGap (c : Char) : Bool :=
  c == ' ' || c == '\n' || c == '\t' || c == '\r'

/-- Drops the gap in front. -/
def skipGap (s : List Char) : List Char := s.dropWhile isGap

/-- The value of a hexadecimal digit. -/
def hexDigit? (c : Char) : Option Nat :=
  if '0' ≤ c && c ≤ '9' then some (c.toNat - 48)
  else if 'a' ≤ c && c ≤ 'f' then some (c.toNat - 87)
  else if 'A' ≤ c && c ≤ 'F' then some (c.toNat - 55)
  else none

/-- The value of four hexadecimal digits. -/
def hexQuad? (a b c d : Char) : Option Nat := do
  return ((← hexDigit? a) * 16 + (← hexDigit? b)) * 256 + (← hexDigit? c) * 16 + (← hexDigit? d)

/-- The character that a simple escape stands for. -/
def simpleEscape? (c : Char) : Option Char :=
  match c with
  | '"' => some '"'
  | '\\' => some '\\'
  | '/' => some '/'
  | 'b' => some (Char.ofNat 8)
  | 'f' => some (Char.ofNat 12)
  | 'n' => some '\n'
  | 'r' => some '\r'
  | 't' => some '\t'
  | _ => none

/-- Whether a 16-bit unit is the first, or the second, half of a pair. -/
def isHighHalf (n : Nat) : Bool := 0xD800 ≤ n && n ≤ 0xDBFF
def isLowHalf (n : Nat) : Bool := 0xDC00 ≤ n && n ≤ 0xDFFF

/-- A character in front of the rest of a string. -/
def consChar (c : Char) (tail : Option (List Char) × List Char) : Option (List Char) × List Char :=
  (tail.1.map (c :: ·), tail.2)

/-- The rest of a string after its opening quote: its characters, unless half of a surrogate pair is
among them, and the text after its closing quote. A control character must be escaped. -/
def stringTail? : List Char → Option (Option (List Char) × List Char)
  | [] => none
  | '"' :: r => some (some [], r)
  | '\\' :: 'u' :: a :: b :: c :: d :: '\\' :: 'u' :: e :: f :: g :: h :: r =>
    match hexQuad? a b c d, hexQuad? e f g h with
    | some n, some m =>
      if isHighHalf n && isLowHalf m then
        (stringTail? r).map (consChar (Char.ofNat (0x10000 + (n - 0xD800) * 0x400 + (m - 0xDC00))))
      else unpaired n (stringTail? ('\\' :: 'u' :: e :: f :: g :: h :: r))
    | some n, none => unpaired n (stringTail? ('\\' :: 'u' :: e :: f :: g :: h :: r))
    | none, _ => none
  | '\\' :: 'u' :: a :: b :: c :: d :: r =>
    match hexQuad? a b c d with
    | some n => unpaired n (stringTail? r)
    | none => none
  | '\\' :: e :: r =>
    match simpleEscape? e with
    | some c => (stringTail? r).map (consChar c)
    | none => none
  | c :: r =>
    if c == '\\' || c.toNat < 32 then none
    else (stringTail? r).map (consChar c)
where
  unpaired (n : Nat) (tail : Option (Option (List Char) × List Char)) :
      Option (Option (List Char) × List Char) :=
    if isHighHalf n || isLowHalf n then tail.map fun t => (none, t.2)
    else tail.map (consChar (Char.ofNat n))

/-! ## Numbers -/

/-- The digits in front, and the rest. -/
def digitRun (s : List Char) : List Char × List Char :=
  (s.takeWhile Text.isAsciiDigit, s.dropWhile Text.isAsciiDigit)

/-- The first number that does not fit 64 bits. -/
def wordLimit : Nat := Nat.pow 2 64

/-- Appends digits to a significand until it would leave 64 bits; also the count of the digits
that were appended. -/
def growSignificand : Nat → List Char → Nat × Nat
  | n, [] => (n, 0)
  | n, d :: r =>
    let m := 10 * n + (d.toNat - 48)
    if m < wordLimit then
      let (k, count) := growSignificand m r
      (k, count + 1)
    else (n, 0)

/-- `10 ^ n` as a double, for `n` up to 308. -/
def floatTen (n : Nat) : Float := Float.ofScientific 1 false n

/-- Scales by a power of ten in binary floating point, dividing by `10 ^ 308` as often as needed
first; `none` if the result is not finite. -/
def scaleFloat? : Nat → Float → Int → Option Float
  | 0, _, _ => none
  | fuel + 1, x, e =>
    if e.natAbs ≤ 308 then
      if 0 ≤ e then
        let y := x * floatTen e.natAbs
        if y.isInf then none else some y
      else some (x / floatTen e.natAbs)
    else if x == 0.0 then some x
    else if 0 ≤ e then none
    else scaleFloat? fuel (x / floatTen 308) (e + 308)

/-- The double of a significand and a decimal exponent. -/
def toFloat? (negative : Bool) (significand : Nat) (exponent : Int) : Option Float :=
  (scaleFloat? 4 (UInt64.ofNat significand).toFloat
    (if exponent < -1000 then -1000 else exponent)).map
    fun x => if negative then -x else x

/-- The exponent part after its letter: sign and digits. -/
def exponentTail? (s : List Char) : Option (Int × List Char) :=
  let (negative, s) :=
    match s with
    | '+' :: r => (false, r)
    | '-' :: r => (true, r)
    | _ => (false, s)
  match digitRun s with
  | ([], _) => none
  | (ds, rest) =>
    let n : Int := Decimal.ofDigits ds
    some (if negative then -n else n, rest)

/-- A number after its sign. -/
def numberTail? (negative : Bool) (s : List Char) : Option (Json × List Char) := do
  let (whole, s) ←
    match s with
    | '0' :: r => if (digitRun r).1 = [] then some (['0'], r) else none
    | _ => if (digitRun s).1 = [] then none else some (digitRun s)
  let fraction : Option (List Char × List Char) :=
    match s with
    | '.' :: r => if (digitRun r).1 = [] then none else some (digitRun r)
    | _ => some ([], s)
  let (fraction, s) ← fraction
  let exponent : Option (Option Int × List Char) :=
    match s with
    | 'e' :: r => (exponentTail? r).map fun p => (some p.1, p.2)
    | 'E' :: r => (exponentTail? r).map fun p => (some p.1, p.2)
    | _ => some (none, s)
  let (exponent, s) ← exponent
  let (n, kept) := growSignificand 0 whole
  let dropped := whole.length - kept
  if fraction = [] ∧ exponent = none ∧ dropped = 0 ∧
      (negative = true → n ≠ 0 ∧ n ≤ Nat.pow 2 63) then
    return (int (if negative then -(n : Int) else n), s)
  else
    let (m, places) := growSignificand n fraction
    match toFloat? negative m ((dropped : Int) - places + exponent.getD 0) with
    | some x => return (float x, s)
    | none => return (refused, s)

/-! ## Values -/

/-- Consumes a literal word. -/
def word? (w : List Char) (value : Json) (s : List Char) : Option (Json × List Char) :=
  if w.isPrefixOf s then some (value, s.drop w.length) else none

/-- A string, unless half of a surrogate pair is in it. -/
def stringValue (s : Option (List Char)) : Json :=
  match s with
  | some s => str (String.ofList s)
  | none => refused

/-- An object, unless one of its keys is refused. -/
def objectValue (members : List (Option String × Json)) : Json :=
  match members.mapM fun m => m.1.map fun k => (k, m.2) with
  | some members => obj members
  | none => refused

/-- A container, unless no container may stand at its depth. -/
def nested (depth : Nat) (j : Json) : Json := if depth = 0 then refused else j

mutual

/-- Reads a value in front of a text; at most `depth` containers may nest in it, and `fuel` bounds
the number of values and members read. -/
def value? : (fuel depth : Nat) → List Char → Option (Json × List Char)
  | 0, _, _ => none
  | fuel + 1, depth, s =>
    match skipGap s with
    | [] => none
    | '"' :: r => (stringTail? r).map fun p => (stringValue p.1, p.2)
    | '[' :: r =>
      match skipGap r with
      | ']' :: r => some (nested depth (arr []), r)
      | r => (elements? fuel (depth - 1) r).map fun p => (nested depth (arr p.1), p.2)
    | '{' :: r =>
      match skipGap r with
      | '}' :: r => some (nested depth (obj []), r)
      | r => (members? fuel (depth - 1) r).map fun p => (nested depth (objectValue p.1), p.2)
    | '-' :: r => numberTail? true r
    | c :: r =>
      if Text.isAsciiDigit c then numberTail? false (c :: r)
      else if c == 't' then word? ['t', 'r', 'u', 'e'] (bool true) (c :: r)
      else if c == 'f' then word? ['f', 'a', 'l', 's', 'e'] (bool false) (c :: r)
      else if c == 'n' then word? ['n', 'u', 'l', 'l'] null (c :: r)
      else none

/-- Reads the elements of an array up to its bracket; at least one. -/
def elements? : (fuel depth : Nat) → List Char → Option (List Json × List Char)
  | 0, _, _ => none
  | fuel + 1, depth, s => do
    let (j, s) ← value? fuel depth s
    match skipGap s with
    | ',' :: r =>
      let (js, rest) ← elements? fuel depth r
      return (j :: js, rest)
    | ']' :: r => return ([j], r)
    | _ => none

/-- Reads the members of an object up to its brace; at least one. -/
def members? : (fuel depth : Nat) → List Char → Option (List (Option String × Json) × List Char)
  | 0, _, _ => none
  | fuel + 1, depth, s =>
    match skipGap s with
    | '"' :: r => do
      let (k, s) ← stringTail? r
      match skipGap s with
      | ':' :: r =>
        let (j, s) ← value? fuel depth r
        match skipGap s with
        | ',' :: r =>
          let (ms, rest) ← members? fuel depth r
          return ((k.map String.ofList, j) :: ms, rest)
        | '}' :: r => return ([(k.map String.ofList, j)], r)
        | _ => none
      | _ => none
    | _ => none

end

/-- How deep containers may nest. -/
def depthLimit : Nat := 127

/-- The value that a text holds and nothing else; repeated keys are kept, and so is what is
refused. -/
def readDocument? (s : String) : Option Json :=
  match value? (2 * s.toList.length + 2) depthLimit s.toList with
  | some (j, rest) => if skipGap rest = [] then some j else none
  | none => none

/-- The value that a text holds and nothing else, each key of an object once. -/
def parse? (s : String) : Option Json :=
  match readDocument? s with
  | some j => if j.sound then some j.merged else none
  | none => none

end LivePreview.Json
