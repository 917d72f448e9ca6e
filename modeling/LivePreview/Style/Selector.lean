/-!
# Class selectors

A class name may hold characters that mean something in a selector; they are escaped there.
-/

namespace LivePreview.Style.Selector

/-- The characters that mean something in a selector. -/
def special : List Char :=
  ['.', '/', '[', ']', '(', ')', '%', '#', ':', '@', '!', ',', '~', '^', '$', '&', '+', '=', '<',
   '>', '|', '\'', '"', ';', '\x7b', '\x7d', '\\', '*', '?']

/-- A character within a class name. -/
def escapeChar (c : Char) : List Char :=
  if special.contains c then ['\\', c] else [c]

/-- A class name as it stands in a selector. A digit in front is written by its number. -/
def escapeChars : List Char → List Char
  | [] => []
  | c :: r =>
    (if '0' ≤ c ∧ c ≤ '9' then ['\\', '3', c, ' '] else escapeChar c) ++ r.flatMap escapeChar

/-- A class name as it stands in a selector. -/
def escape (s : String) : String := String.ofList (escapeChars s.toList)

/-- The selector of the elements with a class. -/
def ofClass (s : String) : String := "." ++ escape s

end LivePreview.Style.Selector
