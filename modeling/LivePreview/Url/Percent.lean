import LivePreview.Text.Letters
/-!
# Percent encoding

A byte may be written by its number, as in `%20`. Control characters and everything beyond ASCII are
always written so; what else is depends on the part of the URL.
-/

namespace LivePreview.Url.Percent

/-- The digit for a value below sixteen, in upper case. -/
def hexDigit (n : Nat) : Char :=
  if n < 10 then Char.ofNat (48 + n) else Char.ofNat (55 + n)

/-- The value of a hexadecimal digit. -/
def hexValue? (c : Char) : Option Nat :=
  let n := c.toNat
  if 48 ≤ n && n ≤ 57 then some (n - 48)
  else if 65 ≤ n && n ≤ 70 then some (n - 55)
  else if 97 ≤ n && n ≤ 102 then some (n - 87)
  else none

/-- A byte by its number. -/
def escapeByte (b : UInt8) : List Char :=
  ['%', hexDigit (b.toNat / 16), hexDigit (b.toNat % 16)]

/-- Whether a character is always written by its number. -/
def isUnsafe (c : Char) : Bool := c.toNat < 32 || 127 ≤ c.toNat

/-- A text in which the unsafe characters and those of a set are written by their numbers. -/
def encode (set : List Char) (s : List Char) : List Char :=
  s.flatMap fun c =>
    if isUnsafe c || set.contains c then (String.utf8EncodeChar c).flatMap escapeByte else [c]

/-! ## The sets -/

/-- What is written by its number in a fragment. -/
def fragmentSet : List Char := [' ', '"', '<', '>', Char.ofNat 96]

/-- What is written by its number in a path. -/
def pathSet : List Char := fragmentSet ++ ['#', '?', '\x7b', '\x7d']

/-- What is written by its number in the name and the password of a user. -/
def userSet : List Char := pathSet ++ ['/', ':', ';', '=', '@', '[', '\\', ']', '^', '|']

/-- What is written by its number in a query. -/
def querySet : List Char := [' ', '"', '#', '<', '>', Char.ofNat 39]

/-! ## Decoding -/

/-- The bytes that a text of bytes stands for. -/
def decodeBytes : List UInt8 → List UInt8
  | a :: b :: c :: r =>
    if a = 37 then
      match hexValue? (Char.ofNat b.toNat), hexValue? (Char.ofNat c.toNat) with
      | some h, some l => UInt8.ofNat (16 * h + l) :: decodeBytes r
      | _, _ => a :: decodeBytes (b :: c :: r)
    else a :: decodeBytes (b :: c :: r)
  | r => r

/-- The text that a text stands for, if its bytes are valid UTF-8. -/
def decode? (s : List Char) : Option (List Char) :=
  if s.contains '%' then
    (String.fromUTF8? ⟨(decodeBytes (s.flatMap String.utf8EncodeChar)).toArray⟩).map String.toList
  else some s

end LivePreview.Url.Percent
