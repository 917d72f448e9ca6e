import LivePreview.Json.Basic
import LivePreview.Text.Search
/-!
# Writing JSON

Two layouts: the compact one without any blank, and the indented one with two spaces a level. Only
the quote, the backslash and control characters are escaped in a string. A double is written with
its shortest digits, always with a point or an exponent, so that it is not read back as a whole
number.
-/

namespace LivePreview.Json

/-- Two hexadecimal digits. -/
def hexPair (n : Nat) : List Char :=
  let digit (d : Nat) : Char := if d < 10 then Char.ofNat (48 + d) else Char.ofNat (87 + d)
  [digit (n / 16 % 16), digit (n % 16)]

/-- A character as it stands in a string. -/
def escapeChar (c : Char) : List Char :=
  match c with
  | '"' => ['\\', '"']
  | '\\' => ['\\', '\\']
  | '\n' => ['\\', 'n']
  | '\r' => ['\\', 'r']
  | '\t' => ['\\', 't']
  | c =>
    if c.toNat = 8 then ['\\', 'b']
    else if c.toNat = 12 then ['\\', 'f']
    else if c.toNat < 32 then ['\\', 'u', '0', '0'] ++ hexPair c.toNat
    else [c]

/-- A text as a JSON string, with its quotes. -/
def quote (s : String) : String :=
  String.ofList ('"' :: s.toList.flatMap escapeChar ++ ['"'])

/-- Positional from a hundred thousandth up to sixteen digits; a whole number ends in `.0`, and
every exponent has a sign. -/
def doubleFormat : Decimal.Format := ⟨-5, 15, ".0", "e+"⟩

/-- A double; one that is not finite has no JSON text and is written as `null`. -/
def renderFloat (x : Float) : String :=
  if x.isFinite then
    let sign := if Nat.pow 2 63 ≤ x.toBits.toNat then "-" else ""
    sign ++ (Decimal.ofFloat x).render doubleFormat
  else "null"

/-- A whole number. -/
def renderInt (i : Int) : String :=
  match i with
  | .ofNat n => String.ofList (Decimal.digitsOf n)
  | .negSucc n => "-" ++ String.ofList (Decimal.digitsOf (n + 1))

mutual

/-- The compact text of a value. -/
def compact : Json → String
  | null => "null"
  | refused => "null"
  | bool true => "true"
  | bool false => "false"
  | int i => renderInt i
  | float x => renderFloat x
  | str s => quote s
  | arr elements => "[" ++ Text.joinWith "," (compactElements elements) ++ "]"
  | obj members => "\x7b" ++ Text.joinWith "," (compactMembers members) ++ "\x7d"

def compactElements : List Json → List String
  | [] => []
  | j :: r => compact j :: compactElements r

def compactMembers : List (String × Json) → List String
  | [] => []
  | (k, j) :: r => (quote k ++ ":" ++ compact j) :: compactMembers r

end

/-- A line break and two spaces for each level. -/
def breakLine (depth : Nat) : String :=
  "\n" ++ String.ofList (List.replicate (2 * depth) ' ')

/-- A bracketed list with one item a line, or the bare brackets. -/
def bracketLines (depth : Nat) (left right : String) (items : List String) : String :=
  if items.isEmpty then left ++ right
  else
    left ++ breakLine (depth + 1) ++ Text.joinWith ("," ++ breakLine (depth + 1)) items ++
      breakLine depth ++ right

mutual

/-- The indented text of a value that stands at a given depth. -/
def prettyAt (depth : Nat) : Json → String
  | arr elements => bracketLines depth "[" "]" (prettyElements (depth + 1) elements)
  | obj members => bracketLines depth "\x7b" "\x7d" (prettyMembers (depth + 1) members)
  | j => compact j

def prettyElements (depth : Nat) : List Json → List String
  | [] => []
  | j :: r => prettyAt depth j :: prettyElements depth r

def prettyMembers (depth : Nat) : List (String × Json) → List String
  | [] => []
  | (k, j) :: r => (quote k ++ ": " ++ prettyAt depth j) :: prettyMembers depth r

end

/-- The indented text of a value. -/
def pretty (j : Json) : String := prettyAt 0 j

end LivePreview.Json
