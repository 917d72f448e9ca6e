import LivePreview.Text.Search
/-!
# Class candidates

A candidate such as `md:hover:!p-4` is a stack of variants, each followed by a colon, and a class. A
colon within brackets belongs to a value. A `!` in front of the class or at its end makes its
declarations important.
-/

namespace LivePreview.Style

/-- A class with the variants in front of it. -/
structure Candidate where
  variants : List String
  base : String
  important : Bool
deriving DecidableEq, Repr

namespace Candidate

/-- How much deeper in brackets the text behind a character is than the text in front of it. -/
def nesting (c : Char) : Int :=
  if c = '[' ∨ c = '(' then 1 else if c = ']' ∨ c = ')' then -1 else 0

/-- How many more brackets a text opens than it closes. -/
def balance (s : List Char) : Int := s.foldr (fun c n => nesting c + n) 0

/-- Cuts a text at its colons outside of brackets; the text starts at the given depth. -/
def segments (depth : Int) : List Char → List (List Char)
  | [] => [[]]
  | c :: r =>
    if c = ':' ∧ depth = 0 then [] :: segments depth r
    else
      match segments (depth + nesting c) r with
      | [] => [[c]]
      | s :: rest => (c :: s) :: rest

/-- Takes off the mark of an important class. -/
def unmark (s : String) : String × Bool :=
  match Text.after? "!" s with
  | some base => (base, true)
  | none =>
    match Text.before? "!" s with
    | some base => (base, true)
    | none => (s, false)

/-- The parts of a candidate. No variant and no class is empty, and brackets are balanced. -/
def parse? (s : String) : Option Candidate :=
  let parts := (segments 0 s.toList).map String.ofList
  let variants := parts.dropLast
  let (base, important) := unmark (parts.getLast?.getD "")
  if balance s.toList ≠ 0 ∨ "" ∈ variants ∨ base = "" then none
  else some ⟨variants, base, important⟩

end Candidate

end LivePreview.Style
