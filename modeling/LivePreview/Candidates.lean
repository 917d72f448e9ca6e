import LivePreview.Text.Blank
import LivePreview.Text.Search
/-!
# Class name candidates

Every word in a quoted text of a source may be the name of a class. The three kinds of quotes are
looked for independently of each other, so a quote inside another literal counts as well; a quote
without a partner is skipped, and a backslash takes the next character along.
-/

namespace LivePreview.Candidates

/-- The text up to the closing quote, if there is one. -/
def literalBody? (quote : Char) : List Char → Option (List Char)
  | [] => none
  | c :: r =>
    if c == quote then some []
    else if c == '\\' then
      match r with
      | [] => none
      | d :: r => (literalBody? quote r).map fun s => c :: d :: s
    else (literalBody? quote r).map fun s => c :: s

/-- The quoted texts of one kind, each with the number of characters in front of it. The first
`skip` characters belong to the text found last. -/
def literalsFrom (quote : Char) (skip offset : Nat) : List Char → List (Nat × List Char)
  | [] => []
  | c :: r =>
    match skip with
    | k + 1 => literalsFrom quote k (offset + 1) r
    | 0 =>
      if c == quote then
        match literalBody? quote r with
        | some body => (offset, body) :: literalsFrom quote (body.length + 1) (offset + 1) r
        | none => literalsFrom quote 0 (offset + 1) r
      else literalsFrom quote 0 (offset + 1) r

/-- Inserts behind everything that starts earlier or at the same place. -/
def insertLiteral (l : Nat × List Char) : List (Nat × List Char) → List (Nat × List Char)
  | [] => [l]
  | m :: r => if m.1 ≤ l.1 then m :: insertLiteral l r else l :: m :: r

/-- The quoted texts of a source in the order in which they start. -/
def literals (source : List Char) : List (List Char) :=
  let found := ['\'', '"', Char.ofNat 96].flatMap fun q => literalsFrom q 0 0 source
  (found.foldl (fun acc l => insertLiteral l acc) []).map (·.2)

/-- The words of the quoted texts of a source, each once, in the order of their first appearance. -/
def ofSource (source : String) : List String :=
  Text.firsts ((literals source.toList).flatMap fun l => Text.words (String.ofList l))

end LivePreview.Candidates
