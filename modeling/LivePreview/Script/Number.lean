import LivePreview.Json.Print
import LivePreview.Json.Read
import LivePreview.Text.Search
/-!
# Number literals

The value of a literal, and the two texts of a value: the usual one, positional from a millionth up
to twenty-one digits, and the minimal one, which drops a leading zero and moves zeros into an
exponent where that is shorter.

Whole numbers below `2 ^ 53` are doubles themselves, so their digits are the shortest ones already
and no rounding is involved.
-/

namespace LivePreview.Script.Number

/-- The digits of a literal in a base, read as a natural number. -/
def ofBase (radix : Nat) (ds : List Char) : Nat :=
  ds.foldl (fun n d => radix * n + (Json.hexDigit? d).getD 0) 0

/-- A literal as an exact decimal; it has no separators. -/
def exact (spelling : List Char) : Decimal :=
  match spelling with
  | '0' :: x :: ds =>
    if x == 'x' || x == 'X' then ⟨ofBase 16 ds, 0⟩
    else if x == 'o' || x == 'O' then ⟨ofBase 8 ds, 0⟩
    else if x == 'b' || x == 'B' then ⟨ofBase 2 ds, 0⟩
    else if (x :: ds).all fun c => '0' ≤ c && c ≤ '7' then ⟨ofBase 8 (x :: ds), 0⟩
    else decimal spelling
  | _ => decimal spelling
where
  decimal (s : List Char) : Decimal :=
    let (whole, r) := Json.digitRun s
    let (fraction, r) :=
      match r with
      | '.' :: r => Json.digitRun r
      | r => ([], r)
    let exponent : Int :=
      match r with
      | _ :: r => ((Json.exponentTail? r).map (·.1)).getD 0
      | [] => 0
    ⟨Decimal.ofDigits (whole ++ fraction), exponent - fraction.length⟩

/-- The first whole number with a neighbour that is no double. -/
def exactLimit : Nat := Nat.pow 2 53

/-- The double next to an exact decimal. Exponents beyond the range of doubles are cut off. -/
def toFloat (d : Decimal) : Float :=
  if d.coefficient = 0 then 0.0
  else
    let digits : Int := (Decimal.digitsOf d.coefficient).length
    if 400 < d.exponent + digits then Float.ofScientific 1 false 400
    else if d.exponent + digits < -400 then 0.0
    else if 0 ≤ d.exponent then Float.ofScientific d.coefficient false d.exponent.toNat
    else Float.ofScientific d.coefficient true (-d.exponent).toNat

/-- The natural number that a double is, if it is one. -/
def whole? (x : Float) : Option Nat :=
  let i := Decimal.Interval.ofBits x.toBits.toNat
  let scaled := i.value * Decimal.twoTo (i.exponent - 2)
  let unit := Decimal.twoTo (2 - i.exponent)
  if scaled % unit = 0 then some (scaled / unit) else none

/-- The decimal that is written for a literal, and the natural number that its value is, if it is
one; nothing if it is infinite. -/
def value? (spelling : String) : Option (Decimal × Option Nat) :=
  let d := exact spelling.toList
  if d.exponent = 0 ∧ d.coefficient < exactLimit then some (d.reduce, some d.coefficient)
  else
    let x := toFloat d
    if x.isInf then none else some (Decimal.ofFloat x, whole? x)

/-- Positional from a millionth up to twenty-one digits. -/
def usualFormat : Decimal.Format := ⟨-6, 20, "", "e+"⟩

/-- The usual text of a double. -/
def usual (x : Float) : String :=
  if x.isNaN then "NaN"
  else
    let sign := if x < 0.0 then "-" else ""
    if x.isInf then sign ++ "Infinity"
    else sign ++ (Decimal.ofFloat x).render usualFormat

def natText (n : Nat) : List Char := Decimal.digitsOf n

/-- A text that starts with `.0`, with its zeros as an exponent if that is shorter. -/
def withoutLeadingZeros (s : List Char) : List Char :=
  let digits := (s.drop 1).dropWhile (· == '0')
  let written := digits ++ ['e', '-'] ++ natText (s.length - 1)
  if written.length < s.length then written else s

/-- A text that ends with zeros, with these as an exponent if that is shorter. -/
def withoutTrailingZeros (s : List Char) : List Char :=
  let digits := (s.reverse.dropWhile (· == '0')).reverse
  let written := digits ++ 'e' :: natText (s.length - digits.length)
  if written.length < s.length then written else s

/-- A text with a point and an exponent, without the point if that is shorter. -/
def withoutPoint (s : List Char) : List Char :=
  match Text.cutChars? ['.'] s with
  | some (whole, r) =>
    match Text.cutChars? ['e'] r with
    | some (fraction, exponent) =>
      let e := ((Json.exponentTail? exponent).map (·.1)).getD 0 - fraction.length
      let written := whole ++ fraction ++ 'e' :: (Json.renderInt e).toList
      if written.length < s.length then written else s
    | none => s
  | none => s

/-- The minimal text of a value: of its usual text without a leading zero or plus, its text in
base sixteen, and the one with its zeros in an exponent, the shortest. -/
def minimalChars (d : Decimal) (whole : Option Nat) : List Char :=
  let usual := (d.render usualFormat).toList
  let small := whole.any (· < 1000)
  if small then usual
  else
    let s :=
      match usual with
      | '0' :: '.' :: r => '.' :: r
      | s => s
    let s := Text.replaceChars ['e', '+'] ['e'] s
    let hex := whole.map fun n => '0' :: 'x' :: Nat.toDigits 16 n
    match hex.filter fun h => h.length < s.length with
    | some h => h
    | none =>
      if ['.', '0'].isPrefixOf s then withoutLeadingZeros s
      else if s.getLast? == some '0' then withoutTrailingZeros s
      else withoutPoint s

/-- The text that a literal is printed with. -/
def minimal (spelling : String) : String :=
  match value? spelling with
  | some (d, whole) => String.ofList (minimalChars d whole)
  | none => "Infinity"

end LivePreview.Script.Number
