/-!
# Shortest decimals

A finite binary floating point number stands for an interval of reals: all those that round to it.
Its shortest decimal is the decimal with the fewest digits in that interval, and of two such
decimals the nearer one. The search runs over exact natural numbers: for each count of digits the
two neighbours of the value on that decimal grid are tested.
-/

namespace LivePreview

/-- The decimal `coefficient * 10 ^ exponent`. -/
structure Decimal where
  coefficient : Nat
  exponent : Int
deriving DecidableEq, Repr

namespace Decimal

/-- The decimal digits of a natural number, most significant first; zero has one digit. -/
def digitsOf (n : Nat) : List Char := Nat.toDigits 10 n

/-- The value of a run of decimal digits. -/
def ofDigits (ds : List Char) : Nat :=
  ds.foldl (fun n d => 10 * n + (d.toNat - '0'.toNat)) 0

/-- Moves factors of ten from the coefficient to the exponent; at most `fuel` of them. -/
def reduceBy : Nat → Decimal → Decimal
  | 0, d => d
  | fuel + 1, d =>
    if d.coefficient ≠ 0 ∧ d.coefficient % 10 = 0 then
      reduceBy fuel ⟨d.coefficient / 10, d.exponent + 1⟩
    else d

/-- The same value without a factor of ten in the coefficient. -/
def reduce (d : Decimal) : Decimal :=
  reduceBy (digitsOf d.coefficient).length d

/-- A positive binary number `mantissa * 2 ^ exponent` with the bounds of its interval, all three
in quarters of the last place: `(lower / 4) * 2 ^ exponent` and so on. -/
structure Interval where
  value : Nat
  lower : Nat
  upper : Nat
  exponent : Int
  /-- Whether the bounds themselves round to the value. -/
  closed : Bool

/-- The interval of the positive double with the given bits. The gap below a power of two is half
as wide as the gap above it, except for the smallest normal number. -/
def Interval.ofBits (bits : Nat) : Interval :=
  let field : Nat := bits / Nat.pow 2 52 % Nat.pow 2 11
  let fraction : Nat := bits % Nat.pow 2 52
  let mantissa := if field = 0 then fraction else fraction + Nat.pow 2 52
  let exponent : Int := (if field = 0 then 1 else (field : Int)) - 1075
  { value := 4 * mantissa
    lower := 4 * mantissa - (if fraction = 0 ∧ 1 < field then 1 else 2)
    upper := 4 * mantissa + 2
    exponent := exponent
    closed := mantissa % 2 == 0 }

/-- `10 ^ n` for a nonnegative `n`, and one otherwise. -/
def tenTo (n : Int) : Nat := Nat.pow 10 n.toNat

/-- `2 ^ n` for a nonnegative `n`, and one otherwise. -/
def twoTo (n : Int) : Nat := Nat.pow 2 n.toNat

/-- The largest `k` with `10 ^ k ≤ num / den`, searched upwards from `k` for `fuel` steps. -/
def magnitudeFrom (num den : Nat) : Nat → Int → Int
  | 0, k => k
  | fuel + 1, k =>
    if den * tenTo (k + 1) ≤ num * tenTo (-(k + 1)) then magnitudeFrom num den fuel (k + 1) else k

/-- The largest `k` with `10 ^ k ≤ num / den`, for a positive quotient above `10 ^ -330`. -/
def magnitude (num den : Nat) : Int :=
  let guess : Int := ((digitsOf num).length : Int) - (digitsOf den).length - 1
  magnitudeFrom num den 3 guess

/-- The decimal next to the interval's value on the grid of multiples of `10 ^ k`, if one lies in
the interval. -/
def Interval.onGrid? (i : Interval) (k : Int) : Option Decimal :=
  let scale := twoTo (i.exponent - 2) * tenTo (-k)
  let unit := twoTo (2 - i.exponent) * tenTo k
  let below := i.value * scale / unit
  let fits (c : Nat) : Bool :=
    if i.closed then i.lower * scale ≤ c * unit && c * unit ≤ i.upper * scale
    else i.lower * scale < c * unit && c * unit < i.upper * scale
  let belowGap := i.value * scale - below * unit
  let aboveGap := (below + 1) * unit - i.value * scale
  match fits below, fits (below + 1) with
  | true, true =>
    if belowGap < aboveGap ∨ (belowGap = aboveGap ∧ below % 2 = 0) then some ⟨below, k⟩
    else some ⟨below + 1, k⟩
  | true, false => some ⟨below, k⟩
  | false, true => some ⟨below + 1, k⟩
  | false, false => none

/-- The shortest decimal of a positive finite double, given by its bits. -/
def ofBits (bits : Nat) : Decimal :=
  let i := Interval.ofBits bits
  let top := magnitude (i.value * twoTo (i.exponent - 2)) (twoTo (2 - i.exponent))
  let hit := (List.range 17).findSome? fun (n : Nat) => i.onGrid? (top - (n : Int))
  reduce (hit.getD ⟨i.value * twoTo (i.exponent - 2) / twoTo (2 - i.exponent), 0⟩)

/-- The shortest decimal of the absolute value of a finite double; zero is `0 * 10 ^ 0`. -/
def ofFloat (x : Float) : Decimal :=
  let bits := x.toBits.toNat % Nat.pow 2 63
  if bits = 0 then ⟨0, 0⟩ else ofBits bits

/-- The power of ten of the first digit. -/
def leading (d : Decimal) : Int :=
  d.exponent + (digitsOf d.coefficient).length - 1

/-- Where a decimal is written positionally and how its exponent looks otherwise. -/
structure Format where
  /-- The least power of ten of the first digit that is written positionally. -/
  least : Int
  /-- The greatest one. -/
  greatest : Int
  /-- Written after a whole number in positional notation. -/
  wholeMark : String
  /-- Written between the digits and a nonnegative exponent. -/
  positiveMark : String

/-- A decimal in a given format: positional between the format's bounds, otherwise one digit, a
point before the others, and the exponent. -/
def render (f : Format) (d : Decimal) : String :=
  let ds := digitsOf d.coefficient
  let e := d.leading
  if f.least ≤ e ∧ e ≤ f.greatest then
    if 0 ≤ d.exponent then
      String.ofList (ds ++ List.replicate d.exponent.toNat '0') ++ f.wholeMark
    else if 0 ≤ e then
      let whole := e.toNat + 1
      String.ofList (ds.take whole ++ '.' :: ds.drop whole)
    else
      "0." ++ String.ofList (List.replicate (-e - 1).toNat '0' ++ ds)
  else
    let head := String.ofList
      (match ds with
       | [] => []
       | [c] => [c]
       | c :: r => c :: '.' :: r)
    head ++ (if 0 ≤ e then f.positiveMark ++ toString e.toNat else "e-" ++ toString (-e).toNat)

end Decimal

end LivePreview
