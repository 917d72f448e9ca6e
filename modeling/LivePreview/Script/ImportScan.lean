import LivePreview.Text.Blank
import LivePreview.Text.Letters
import LivePreview.Text.Search
/-!
# Imports in a source that is not parsed

A quick scan that finds the specifiers of a source without parsing it. An import or export counts if
it opens a line or follows a semicolon, and if only names, braces, commas and stars stand between
its word and `from`. An import while running counts wherever it stands, if its one argument is a
string. Quotes need not match. Comments and strings are not recognized.
-/

namespace LivePreview.Script.ImportScan

/-- A specifier with the number of characters in front of it. -/
structure Found where
  start : Nat
  specifier : List Char

def isQuote (c : Char) : Bool := c == '"' || c == '\''

/-- The text between the quotes that a text starts with, and the characters up to and with the
closing one. The text is neither empty nor holds a quote or a line feed. -/
def quotedText? (s : List Char) : Option (List Char × Nat) :=
  match s with
  | q :: r =>
    let body := r.takeWhile fun c => !isQuote c && c != '\n'
    let closed :=
      match r.drop body.length with
      | c :: _ => isQuote c
      | [] => false
    if isQuote q && body ≠ [] && closed then some (body, body.length + 2) else none
  | [] => none

/-- Drops blanks in front; how many, and the rest. -/
def dropBlanks (s : List Char) : Nat × List Char :=
  let blanks := s.takeWhile Text.isBlank
  (blanks.length, s.drop blanks.length)

/-- What may stand between the word of an import and its `from`. -/
def isBindingChar (c : Char) : Bool :=
  Text.isWord c || c == '$' || Text.isBlank c || c == '{' || c == '}' || c == ',' || c == '*'

/-- The first specifier behind a `from` with only bindings in front of it; `offset` characters stand
before the text, and `inWord` tells whether the last of them belongs to a word. The result also has
the offset behind the specifier. -/
def afterFrom? (offset : Nat) (inWord : Bool) : List Char → Option (Found × Nat)
  | [] => none
  | c :: r =>
    let here :=
      if inWord then none
      else
        match Text.afterChars? ['f', 'r', 'o', 'm'] (c :: r) with
        | some rest =>
          let (n, rest) := dropBlanks rest
          (quotedText? rest).map fun p =>
            ((⟨offset + 4 + n + 1, p.1⟩ : Found), offset + 4 + n + p.2)
        | none => none
    match here with
    | some found => some found
    | none => if isBindingChar c then afterFrom? (offset + 1) (Text.isWord c) r else none

/-- The specifier of an import or export statement that a text starts with, behind spaces and
tabs. -/
def statement? (offset : Nat) (s : List Char) : Option (Found × Nat) :=
  let indent := s.takeWhile fun c => c == ' ' || c == '\t'
  let t := s.drop indent.length
  match Text.afterChars? ['i', 'm', 'p', 'o', 'r', 't'] t <|>
      Text.afterChars? ['e', 'x', 'p', 'o', 'r', 't'] t with
  | none => none
  | some rest =>
    let (n, rest) := dropBlanks rest
    if n = 0 then none
    else
      let offset := offset + indent.length + 6 + n
      match afterFrom? offset false rest with
      | some found => some found
      | none => (quotedText? rest).map fun p => (⟨offset + 1, p.1⟩, offset + p.2)

/-- The specifiers of statements, from left to right. The first `skip` characters belong to the
statement found last. -/
def statementsFrom (skip offset : Nat) (atLineStart : Bool) : List Char → List Found
  | [] => []
  | c :: r =>
    match skip with
    | k + 1 => statementsFrom k (offset + 1) (c == '\n') r
    | 0 =>
      let here :=
        (if atLineStart then statement? offset (c :: r) else none) <|>
          (if c == ';' then statement? (offset + 1) r else none)
      match here with
      | some (found, stop) => found :: statementsFrom (stop - offset - 1) (offset + 1) (c == '\n') r
      | none => statementsFrom 0 (offset + 1) (c == '\n') r

/-- The specifier of an import while running that a text starts with. -/
def call? (offset : Nat) (s : List Char) : Option (Found × Nat) := do
  let rest ← Text.afterChars? ['i', 'm', 'p', 'o', 'r', 't'] s
  let (n, rest) := dropBlanks rest
  let rest ← Text.afterChars? ['('] rest
  let (m, rest) := dropBlanks rest
  let (specifier, k) ← quotedText? rest
  let (l, rest) := dropBlanks (rest.drop k)
  let _ ← Text.afterChars? [')'] rest
  let start := offset + 6 + n + 1 + m
  return (⟨start + 1, specifier⟩, start + k + l + 1)

/-- The specifiers of imports while running, from left to right. -/
def callsFrom (skip offset : Nat) (inWord : Bool) : List Char → List Found
  | [] => []
  | c :: r =>
    match skip with
    | k + 1 => callsFrom k (offset + 1) (Text.isWord c) r
    | 0 =>
      match if inWord then none else call? offset (c :: r) with
      | some (found, stop) => found :: callsFrom (stop - offset - 1) (offset + 1) (Text.isWord c) r
      | none => callsFrom 0 (offset + 1) (Text.isWord c) r

/-- Inserts behind everything that starts earlier or at the same place. -/
def insertFound (f : Found) : List Found → List Found
  | [] => [f]
  | g :: r => if g.start ≤ f.start then g :: insertFound f r else f :: g :: r

/-- The specifiers of a source in order, each once. -/
def specifiers (source : List Char) : List String :=
  let found := statementsFrom 0 0 true source ++ callsFrom 0 0 false source
  let sorted := found.foldl (fun acc f => insertFound f acc) []
  Text.firsts (sorted.map fun f => String.ofList f.specifier)

end LivePreview.Script.ImportScan
