import LivePreview.Text.Letters
/-!
# Labels in ASCII

A label with characters beyond ASCII is written by its characters of ASCII, a hyphen, and a list of
numbers that say which characters to insert and where. Characters are inserted in their order, and a
number counts the steps from one insertion to the next. Its digits run from the lowest to the
highest; how much a digit can say adapts to the numbers so far.
-/

namespace LivePreview.Url.Domain.Punycode

/-- The digit of a value below 36. -/
def digit (d : Nat) : Char := if d < 26 then Char.ofNat (97 + d) else Char.ofNat (22 + d)

/-- The value of a digit. -/
def digitValue? (c : Char) : Option Nat :=
  let n := c.toNat
  if 97 ≤ n && n ≤ 122 then some (n - 97)
  else if 65 ≤ n && n ≤ 90 then some (n - 65)
  else if 48 ≤ n && n ≤ 57 then some (n - 22)
  else none

/-- The least value of a digit with another one behind it; `place` counts the digits in steps of
36. -/
def threshold (bias place : Nat) : Nat := min 26 (max 1 (place - bias))

theorem threshold_pos (bias place : Nat) : 1 ≤ threshold bias place := by
  unfold threshold
  omega

/-- Takes down a number in steps and counts them. -/
def steps (n : Nat) : Nat × Nat :=
  if 455 < n then
    let (k, m) := steps (n / 35)
    (k + 36, m)
  else (0, n)
termination_by n
decreasing_by omega

/-- The bias behind a number; `count` is how many characters there are now. -/
def adapt (number count : Nat) (isFirst : Bool) : Nat :=
  let n := if isFirst then number / 700 else number / 2
  let (k, m) := steps (n + n / count)
  k + 36 * m / (m + 38)

/-! ## Encoding -/

/-- The digits of a number. -/
def writeNumber (bias place n : Nat) : List Char :=
  let t := threshold bias place
  if n < t then [digit n]
  else digit (t + (n - t) % (36 - t)) :: writeNumber bias (place + 36) ((n - t) / (36 - t))
termination_by n
decreasing_by
  have := threshold_pos bias place
  exact Nat.lt_of_le_of_lt (Nat.div_le_self _ _) (by omega)

/-- How far a label is written. -/
structure Progress where
  written : List Char
  bias : Nat
  /-- The steps since the last insertion. -/
  pending : Nat
  /-- The characters so far. -/
  count : Nat

/-- Passes a character of the label while the code point `n` is inserted. -/
def pass (plain n : Nat) (p : Progress) (c : Char) : Progress :=
  if c.toNat < n then { p with pending := p.pending + 1 }
  else if c.toNat = n then
    { written := p.written ++ writeNumber p.bias 36 p.pending
      bias := adapt p.pending (p.count + 1) (p.count == plain)
      pending := 0
      count := p.count + 1 }
  else p

/-- Inserts code points in their order; the last one was `n - 1`. -/
def writeFrom (label : List Char) (plain : Nat) : (n : Nat) → List Nat → Progress → List Char
  | _, [], p => p.written
  | n, m :: r, p =>
    let p := { p with pending := p.pending + (m - n) * (p.count + 1) }
    let p := label.foldl (pass plain m) p
    writeFrom label plain (m + 1) r { p with pending := p.pending + 1 }

/-- Adds a number to an ordered list, unless it is there. -/
def insertNumber (n : Nat) : List Nat → List Nat
  | [] => [n]
  | m :: r => if n < m then n :: m :: r else if n = m then m :: r else m :: insertNumber n r

/-- A label with characters beyond ASCII in ASCII. -/
def encode (label : List Char) : List Char :=
  let plain := label.filter fun c => c.toNat < 128
  let others := (label.filterMap fun c => if c.toNat < 128 then none else some c.toNat).foldr
    insertNumber []
  plain ++ (if plain = [] then [] else ['-']) ++
    writeFrom label plain.length 128 others ⟨[], 72, 0, plain.length⟩

/-! ## Decoding -/

/-- The number in front of a text, and what follows it. -/
def readNumber? (bias : Nat) : (place weight : Nat) → List Char → Option (Nat × List Char)
  | _, _, [] => none
  | place, weight, c :: r =>
    (digitValue? c).bind fun d =>
      let t := threshold bias place
      if d < t then some (d * weight, r)
      else (readNumber? bias (place + 36) (weight * (36 - t)) r).map fun p =>
        (d * weight + p.1, p.2)

/-- Inserts characters as long as there are numbers; each takes at least one character, which bounds
the insertions. The next step is at the code point `n` and the place `i` of the label. -/
def insertFrom? : (fuel : Nat) → (bias n i : Nat) → (label rest : List Char) → Option (List Char)
  | _, _, _, _, label, [] => some label
  | 0, _, _, _, _, _ => none
  | fuel + 1, bias, n, i, label, rest =>
    (readNumber? bias 36 1 rest).bind fun (number, rest) =>
      let count := label.length + 1
      let n' := n + (i + number) / count
      let i' := (i + number) % count
      if n'.isValidChar then
        insertFrom? fuel (adapt number count (n == 128 && i == 0)) n' (i' + 1)
          (label.take i' ++ Char.ofNat n' :: label.drop i') rest
      else none

/-- Splits a text at its last hyphen; a hyphen in front of everything is kept. -/
def cutPlain (s : List Char) : List Char × List Char :=
  match s.reverse.span (· != '-') with
  | (back, _ :: front) => if front = [] then ([], s) else (front.reverse, back.reverse)
  | (_, []) => ([], s)

/-- The label that is written by a text. -/
def decode? (s : List Char) : Option (List Char) :=
  let (plain, rest) := cutPlain s
  insertFrom? rest.length 72 128 0 plain rest

end LivePreview.Url.Domain.Punycode
