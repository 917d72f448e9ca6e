import LivePreview.Script.SyntaxError
import LivePreview.Script.Token
import LivePreview.Text.Blank
import LivePreview.Text.Letters
import LivePreview.Text.Search
import LivePreview.Json.Read
/-!
# The lexer

Tokens are cut off the front of the source one at a time, since what a slash, a brace or an angle
bracket begins depends on the parser. A `Lexeme` is one token without its surroundings; a `Gap` is
what precedes a token: blanks, line breaks and comments.

A comment belongs to the token after it, unless it stands on the line on which the token before it
ended and that line ends after it.
-/

namespace LivePreview.Script

/-- A piece cut off the front of a text. -/
structure Lexeme where
  kind : TokenKind
  /-- How many characters were cut off. -/
  length : Nat
  rest : List Char
  /-- What is wrong with it, at a distance from its start. -/
  error : Option (SyntaxError × Nat)
  escaped : Bool

namespace Lexer

/-! ## Gaps -/

def isLineBreak (c : Char) : Bool :=
  c == '\n' || c == '\r' || c.toNat == 0x2028 || c.toNat == 0x2029

/-- A blank that ends no line. -/
def isSpace (c : Char) : Bool :=
  (Text.isBlank c && !isLineBreak c) || c.toNat == 0xFEFF || c.toNat == 0x180E || c.toNat == 0x200B

/-- What is known about the gap scanned so far. -/
structure Gap where
  length : Nat
  afterBreak : Bool
  /-- Whether a line ended since the last comment. -/
  onNewLine : Bool
  /-- The comments that may belong to the next token, last one first. -/
  comments : List Comment
  pure : Bool
  effectless : Bool
  /-- The bodies of the comments that may choose how markup is lowered, last one first. -/
  pragmas : List (List Char)
  unterminated : Option Nat

/-- The text up to the end of the line, and the rest. -/
def lineRest (s : List Char) : List Char × List Char :=
  s.span fun c => !isLineBreak c

/-- The text up to the end of a block comment, which is part of it, and the rest. -/
def blockRest? : List Char → Option (List Char × List Char)
  | [] => none
  | '*' :: '/' :: r => some (['*', '/'], r)
  | c :: r => (blockRest? r).map fun p => (c :: p.1, p.2)

/-- Whether a comment holds one of the two marks of that name. -/
def holdsMark (mark : String) (body : List Char) : Bool :=
  let body := Text.trimChars body
  ('@' :: mark.toList).isPrefixOf body || ('#' :: mark.toList).isPrefixOf body

/-- Whether the comment says that the call behind it has no side effects. -/
def isPureMark (body : List Char) : Bool := holdsMark "__PURE__" body

/-- Whether the comment says that calls of the function behind it have no side effects. -/
def isEffectlessMark (body : List Char) : Bool := holdsMark "__NO_SIDE_EFFECTS__" body

/-- Whether the comment only informs tools about calls and functions. -/
def isMark (body : List Char) : Bool := isPureMark body || isEffectlessMark body

/-- What the comments begin with that choose how markup is lowered. -/
def pragmaMark : List Char := ['@', 'j', 's', 'x']

/-- Notes what a comment says. -/
def Gap.note (g : Gap) (body : List Char) : Gap :=
  { g with
    pure := g.pure || isPureMark body
    effectless := g.effectless || isEffectlessMark body
    pragmas := if (Text.cutChars? pragmaMark body).isSome then body :: g.pragmas else g.pragmas }

/-- A line break ends the line of the token before: the comments on that line are its own. -/
def Gap.lineBreak (g : Gap) : Gap :=
  { g with
    afterBreak := true
    onNewLine := true
    comments :=
      if g.afterBreak then
        match g.comments with
        | [] => []
        | c :: r => { c with beforeBreak := true } :: r
      else [] }

/-- A line comment after other tokens of its line belongs to the token before, except after an
opening parenthesis or an equals sign. -/
def Gap.lineComment (g : Gap) (mayTrail : Bool) (body : List Char) : Gap :=
  let comment : Comment := ⟨String.ofList ('/' :: '/' :: body), true, g.onNewLine, true⟩
  { g.note body with
    comments :=
      if !g.afterBreak && mayTrail then []
      else if isMark body then g.comments
      else comment :: g.comments
    afterBreak := true
    onNewLine := true }

def Gap.blockComment (g : Gap) (body : List Char) : Gap :=
  let inner := body.take (body.length - 2)
  let comment : Comment := ⟨String.ofList ('/' :: '*' :: body), false, g.onNewLine, false⟩
  { g.note inner with
    comments := if isMark inner then g.comments else comment :: g.comments
    onNewLine := false }

/-- Scans the gap in front of a text; `mayTrail` tells whether a line comment may belong to the
token before. `fuel` bounds the number of blanks and comments. -/
def gapFrom (mayTrail : Bool) : Nat → Gap → List Char → Gap × List Char
  | 0, g, s => (g, s)
  | _ + 1, g, [] => (g, [])
  | fuel + 1, g, '/' :: '/' :: r =>
    let (body, rest) := lineRest r
    gapFrom mayTrail fuel
      { g.lineComment mayTrail body with length := g.length + 2 + body.length } rest
  | fuel + 1, g, '/' :: '*' :: r =>
    match blockRest? r with
    | none => ({ g with unterminated := some g.length, length := g.length + 2 + r.length }, [])
    | some (body, rest) =>
      let broken := body.any isLineBreak
      let g := g.blockComment body
      gapFrom mayTrail fuel
        { g with length := g.length + 2 + body.length, afterBreak := g.afterBreak || broken } rest
  | fuel + 1, g, c :: r =>
    if isLineBreak c then gapFrom mayTrail fuel { g.lineBreak with length := g.length + 1 } r
    else if isSpace c then gapFrom mayTrail fuel { g with length := g.length + 1 } r
    else (g, c :: r)

/-- The gap in front of a text, after a token of the given kind or, if there is none, at the start
of the source. -/
def gap (previous : Option TokenKind) (s : List Char) : Gap × List Char :=
  let mayTrail :=
    match previous with
    | some (.punct p) => !(p == "=" || p == "(")
    | _ => true
  gapFrom mayTrail (s.length + 1) ⟨0, previous.isNone, previous.isNone, [], false, false, [], none⟩ s

/-! ## Escapes and strings -/

/-- The value of a run of hexadecimal digits. -/
def hexValue? (ds : List Char) : Option Nat :=
  if ds = [] then none
  else ds.foldlM (fun n d => (Json.hexDigit? d).map fun v => 16 * n + v) 0

/-- Whether a code point is a half of a pair, which is no character. -/
def isHalf (n : Nat) : Bool := Json.isHighHalf n || Json.isLowHalf n

/-- The escape after a backslash and the letter `u`: the code point, the characters cut off, and the
rest. -/
def unicodeEscape? (s : List Char) : Option (Nat × Nat × List Char) :=
  match s with
  | '{' :: r =>
    let (ds, rest) := r.span fun c => (Json.hexDigit? c).isSome
    match rest with
    | '}' :: rest => do
      let n ← hexValue? ds
      if n ≤ 0x10FFFF then some (n, ds.length + 2, rest) else none
    | _ => none
  | a :: b :: c :: d :: r => (Json.hexQuad? a b c d).map fun n => (n, 4, r)
  | _ => none

def octalDigit (c : Char) : Bool := '0' ≤ c && c ≤ '7'

/-- What an escape stands for: characters, or half of a pair. -/
inductive Escaped where
  | text (cs : List Char)
  | half (n : Nat)

def Escaped.ofCodePoint (n : Nat) : Escaped := if isHalf n then half n else text [Char.ofNat n]

/-- The escape after a backslash and the letter `u` in a string. The halves of a pair are joined if
each is written with four digits. -/
def unicodeEscaped? (s : List Char) : Option (Escaped × Nat × List Char) := do
  let (n, k, rest) ← unicodeEscape? s
  if Json.isHighHalf n && s.head? != some '{' then
    match rest with
    | '\\' :: 'u' :: more =>
      match more with
      | a :: b :: c :: d :: rest' => do
        let m ← Json.hexQuad? a b c d
        if Json.isLowHalf m then
          some (.text [Char.ofNat (0x10000 + (n - 0xD800) * 0x400 + (m - 0xDC00))], k + 6, rest')
        else some (.half n, k, rest)
      | _ => none
    | _ => some (.half n, k, rest)
  else some (Escaped.ofCodePoint n, k, rest)

/-- The escape after a backslash: what it stands for, the characters cut off, and the rest. -/
def escape? (s : List Char) : Option (Escaped × Nat × List Char) :=
  match s with
  | [] => none
  | 'n' :: r => some (.text ['\n'], 1, r)
  | 't' :: r => some (.text ['\t'], 1, r)
  | 'r' :: r => some (.text ['\r'], 1, r)
  | 'b' :: r => some (.text [Char.ofNat 8], 1, r)
  | 'v' :: r => some (.text [Char.ofNat 11], 1, r)
  | 'f' :: r => some (.text [Char.ofNat 12], 1, r)
  | '\r' :: '\n' :: r => some (.text [], 2, r)
  | 'x' :: a :: b :: r => (hexValue? [a, b]).map fun n => (.text [Char.ofNat n], 3, r)
  | 'x' :: _ => none
  | 'u' :: r => (unicodeEscaped? r).map fun p => (p.1, p.2.1 + 1, p.2.2)
  | c :: r =>
    if isLineBreak c then some (.text [], 1, r)
    else if octalDigit c then
      let limit := if c ≤ '3' then 3 else 2
      let ds := ((c :: r).take limit).takeWhile octalDigit
      let n := ds.foldl (fun n d => 8 * n + (d.toNat - 48)) 0
      some (.text [Char.ofNat n], ds.length, (c :: r).drop ds.length)
    else some (.text [c], 1, r)

/-- A string literal so far. -/
structure StringScan where
  /-- The characters of its value behind the last half of a pair, last one first. -/
  value : List Char
  /-- The texts in front of halves of pairs, with these halves, last ones first. -/
  pieces : List (List Char × Nat)
  length : Nat
  rest : List Char
  closed : Bool
  badEscape : Option Nat

/-- Adds what an escape stands for. -/
def StringScan.add (g : StringScan) : Escaped → StringScan
  | .text cs => { g with value := cs.reverse ++ g.value }
  | .half n => { g with value := [], pieces := (g.value.reverse, n) :: g.pieces }

/-- The rest of a string literal after its opening quote. -/
def stringFrom (quote : Char) : Nat → StringScan → StringScan
  | 0, g => g
  | fuel + 1, g =>
    match g.rest with
    | [] => g
    | '\\' :: r =>
      match escape? r with
      | some (e, k, rest) =>
        stringFrom quote fuel { g.add e with length := g.length + k + 1, rest }
      | none =>
        stringFrom quote fuel
          { g with length := g.length + 1, rest := r, badEscape := g.badEscape <|> some g.length }
    | c :: r =>
      if c == quote then { g with length := g.length + 1, rest := r, closed := true }
      else if c == '\n' || c == '\r' then g
      else stringFrom quote fuel { g with value := c :: g.value, length := g.length + 1, rest := r }

/-- A string literal with its quotes. -/
def string (quote : Char) (s : List Char) : Lexeme :=
  let g := stringFrom quote (s.length + 1) ⟨[], [], 1, s.drop 1, false, none⟩
  if g.closed then
    let value := g.value.reverse
    let raw := String.ofList ((s.drop 1).take (g.length - 2))
    { kind :=
        if g.pieces.isEmpty then .string (String.ofList value) raw
        else .brokenString (withHalves g.pieces.reverse value) raw
      length := g.length, rest := g.rest
      error := g.badEscape.map fun k => (.invalidEscape, k), escaped := false }
  else
    { kind := .bad, length := g.length, rest := g.rest, error := some (.unterminatedString, 0)
      escaped := false }

/-- An attribute value between quotes: no escapes, and line breaks are allowed. -/
def attributeString (quote : Char) (s : List Char) : Lexeme :=
  let (value, rest) := (s.drop 1).span (· != quote)
  match rest with
  | [] =>
    { kind := .bad, length := s.length, rest := [], error := some (.unterminatedString, 0)
      escaped := false }
  | _ :: rest =>
    { kind := .string (String.ofList value) (String.ofList value), length := value.length + 2, rest
      error := none, escaped := false }

/-! ## Templates and regular expressions -/

/-- The raw text of a template up to its end or to the next expression: the text last character
first, the characters cut off, whether it ended there, and the rest. A carriage return before a
line feed counts for nothing, one alone is a line feed. -/
def templateFrom : Nat → List Char → Nat → List Char → Option (List Char × Nat × Bool × List Char)
  | 0, _, _, _ => none
  | _ + 1, _, _, [] => none
  | _ + 1, raw, n, '`' :: r => some (raw, n + 1, true, r)
  | _ + 1, raw, n, '$' :: '{' :: r => some (raw, n + 2, false, r)
  | fuel + 1, raw, n, '\\' :: '\r' :: '\n' :: r => templateFrom fuel ('\n' :: '\\' :: raw) (n + 3) r
  | fuel + 1, raw, n, '\\' :: c :: r =>
    templateFrom fuel ((if c == '\r' then '\n' else c) :: '\\' :: raw) (n + 2) r
  | fuel + 1, raw, n, '\r' :: '\n' :: r => templateFrom fuel ('\n' :: raw) (n + 2) r
  | fuel + 1, raw, n, c :: r => templateFrom fuel ((if c == '\r' then '\n' else c) :: raw) (n + 1) r

/-- Whether the escape of a character, in front of the given rest, stands for a text in a
template. Octal escapes do not. -/
def isTemplateEscape (c : Char) (rest : List Char) : Bool :=
  match c with
  | 'x' =>
    match rest with
    | a :: b :: _ => (hexValue? [a, b]).isSome
    | _ => false
  | 'u' => (unicodeEscape? rest).isSome
  | '0' => !rest.head?.any Text.isAsciiDigit
  | c => !Text.isAsciiDigit c

/-- Whether all escapes of a raw text stand for texts in a template. -/
def soundEscapes : List Char → Bool
  | [] => true
  | '\\' :: c :: r => isTemplateEscape c r && soundEscapes r
  | _ :: r => soundEscapes r

/-- A piece of a template, after the quote or the brace that opens it. -/
def template (opens : Bool) (s : List Char) : Lexeme :=
  match templateFrom (s.length + 1) [] 1 (s.drop 1) with
  | some (raw, n, last, rest) =>
    let raw := raw.reverse
    { kind := .template (String.ofList raw) opens last (soundEscapes raw), length := n, rest
      error := none, escaped := false }
  | none =>
    { kind := .bad, length := s.length, rest := [], error := some (.unterminatedString, 0)
      escaped := false }

/-- The body of a regular expression after its opening slash, and the rest after the closing one.
A slash in brackets does not close it. -/
def regexBody? : Bool → List Char → Option (List Char × List Char)
  | _, [] => none
  | inBrackets, '\\' :: c :: r =>
    if isLineBreak c then none
    else (regexBody? inBrackets r).map fun p => ('\\' :: c :: p.1, p.2)
  | inBrackets, c :: r =>
    if isLineBreak c then none
    else if c == '/' && !inBrackets then some ([], r)
    else
      (regexBody? (if c == '[' then true else if c == ']' then false else inBrackets) r).map
        fun p => (c :: p.1, p.2)

/-- The flags of regular expressions, in the order in which they are written. -/
def regexFlags : List Char := ['d', 'g', 'i', 'm', 's', 'u', 'v', 'y']

/-- Whether a character behind a regular expression is read as a flag. -/
def isFlagChar (c : Char) : Bool :=
  Text.isAsciiLetter c || Text.isAsciiDigit c || c == '_' || c == '$'

/-- The first flag that is unknown or was seen before, with its place. -/
def flagFault? (seen : List Char) (place : Nat) : List Char → Option (SyntaxError × Nat)
  | [] => none
  | c :: r =>
    if !regexFlags.contains c then some (.unknownFlag c, place)
    else if seen.contains c then some (.repeatedFlag c, place)
    else flagFault? (c :: seen) (place + 1) r

/-- A regular expression literal. -/
def regex (s : List Char) : Lexeme :=
  match regexBody? false (s.drop 1) with
  | some (body, rest) =>
    let (flags, rest) := rest.span isFlagChar
    let exclusive :=
      if flags.contains 'u' && flags.contains 'v' then some (SyntaxError.exclusiveFlags, 0) else none
    { kind := .regex (String.ofList body) (String.ofList (regexFlags.filter flags.contains))
      length := body.length + flags.length + 2, rest
      error := flagFault? [] (body.length + 2) flags <|> exclusive, escaped := false }
  | none =>
    { kind := .bad, length := (lineRest s).1.length, rest := (lineRest s).2
      error := some (.unterminatedRegex, 0), escaped := false }

/-! ## Names and numbers -/

/-- A name in front of a text. -/
structure NameScan where
  chars : List Char
  length : Nat
  /-- Whether a character was written with an escape. -/
  escaped : Bool
  rest : List Char
  /-- What is wrong with its first bad escape, at a distance from its start. -/
  error : Option (SyntaxError × Nat)

/-- The character that an escape in a name stands for, the characters cut off behind the backslash
and the letter `u`, and the rest; or what is wrong with it, at a distance from the backslash. -/
def nameEscape (first : Bool) (s : List Char) :
    Except (SyntaxError × Nat) (Char × Nat × List Char) :=
  match unicodeEscape? s with
  | none => .error (.invalidUnicodeEscape, 1)
  | some (n, k, rest) =>
    if isHalf n then .error (.invalidUnicodeEscape, 1)
    else
      let c := Char.ofNat n
      if if first then Text.isNameStart c else Text.isNamePart c then .ok (c, k, rest)
      else .error (.invalidCharacter c, k + 2)

/-- The rest of a name, `length` characters behind its start. -/
def nameFrom : Nat → NameScan → NameScan
  | 0, g => g
  | fuel + 1, g =>
    match g.rest with
    | [] => g
    | '\\' :: 'u' :: r =>
      match nameEscape (g.length == 0) r with
      | .ok (c, k, rest) =>
        nameFrom fuel
          { g with chars := c :: g.chars, length := g.length + k + 2, escaped := true, rest }
      | .error e => { g with error := some (e.1, g.length + e.2) }
    | '\\' :: _ => { g with error := some (.invalidUnicodeEscape, g.length + 1) }
    | c :: r =>
      if if g.length == 0 then Text.isNameStart c else Text.isNamePart c then
        nameFrom fuel { g with chars := c :: g.chars, length := g.length + 1, rest := r }
      else g

/-- The name in front of a text. -/
def name (s : List Char) : NameScan :=
  let g := nameFrom (s.length + 1) ⟨[], 0, false, s, none⟩
  { g with chars := g.chars.reverse }

/-- Digits with separators, each of which stands between two digits, the rest, and whether there is
no separator without a digit behind it. -/
def digitRun (isDigit : Char → Bool) : List Char → List Char × List Char × Bool
  | [] => ([], [], true)
  | c :: r =>
    if isDigit c then
      let (ds, rest, sound) := digitRun isDigit r
      (c :: ds, rest, sound)
    else if c == '_' then
      match r with
      | d :: _ =>
        if isDigit d then
          let (ds, rest, sound) := digitRun isDigit r
          (c :: ds, rest, sound)
        else ([c], r, false)
      | [] => ([c], [], false)
    else ([], c :: r, true)

/-- A token that breaks off in front of `rest`, whose first character is at fault. -/
def refused (length : Nat) (rest : List Char) : Lexeme :=
  { kind := .bad, length, rest
    error := some (rest.head?.elim .unexpectedEnd .invalidCharacter, length), escaped := false }

/-- A number may not go on with a name or a digit. -/
def endNumber (kind : TokenKind) (length : Nat) (rest : List Char) : Lexeme :=
  let stray := rest.takeWhile Text.isNamePart
  match rest with
  | c :: _ =>
    if Text.isNameStart c || Text.isAsciiDigit c then
      { kind := .bad, length := length + stray.length, rest := rest.drop stray.length
        error := some (.afterNumber, length), escaped := false }
    else { kind, length, rest, error := none, escaped := false }
  | [] => { kind, length, rest, error := none, escaped := false }

def withoutSeparators (s : List Char) : String := String.ofList (s.filter (· != '_'))

/-- A number in one of the bases with a letter. -/
def basedNumber (base : String) (radix : Nat) (isDigit : Char → Bool) (s : List Char) : Lexeme :=
  let (ds, rest, sound) := digitRun isDigit (s.drop 2)
  if ds.head?.all (· == '_') then refused 2 (s.drop 2)
  else if !sound then refused (ds.length + 2) rest
  else
    match rest with
    | 'n' :: rest =>
      let n := (ds.filter (· != '_')).foldl (fun n d => radix * n + (Json.hexDigit? d).getD 0) 0
      endNumber (.bigint (toString n) base) (ds.length + 3) rest
    | rest => endNumber (.number (withoutSeparators (s.take 2 ++ ds)) base) (ds.length + 2) rest

/-- The end of a decimal number with an exponent behind its letter, which ends `front`. -/
def exponentNumber (front s : List Char) : Lexeme :=
  let (sign, r) :=
    match s with
    | '+' :: r => (['+'], r)
    | '-' :: r => (['-'], r)
    | r => ([], r)
  let front := front ++ sign
  let (ds, rest, sound) := digitRun Text.isAsciiDigit r
  if ds.head?.all (· == '_') then refused front.length r
  else if !sound then refused (front.length + ds.length) rest
  else endNumber (.number (withoutSeparators (front ++ ds)) "float") (front.length + ds.length) rest

/-- The end of a decimal number behind its point, which ends `front`. -/
def fractionNumber (front s : List Char) : Lexeme :=
  let (ds, rest, sound) :=
    if s.head?.any Text.isAsciiDigit then digitRun Text.isAsciiDigit s else ([], s, true)
  let front := front ++ ds
  if !sound then refused front.length rest
  else
    match rest with
    | 'e' :: r => exponentNumber (front ++ ['e']) r
    | 'E' :: r => exponentNumber (front ++ ['e']) r
    | r => endNumber (.number (withoutSeparators front) "float") front.length r

/-- The end of a decimal number behind its whole part. -/
def afterWhole (whole s : List Char) : Lexeme :=
  match s with
  | '.' :: r => fractionNumber (whole ++ ['.']) r
  | 'e' :: r => exponentNumber (whole ++ ['e']) r
  | 'E' :: r => exponentNumber (whole ++ ['e']) r
  | 'n' :: r => endNumber (.bigint (withoutSeparators whole) "decimal") (whole.length + 1) r
  | r => endNumber (.number (withoutSeparators whole) "decimal") whole.length r

/-- A number that starts with a zero and another digit: octal, unless a digit forbids it. -/
def zeroNumber (s : List Char) : Lexeme :=
  let (ds, r) := s.span Text.isAsciiDigit
  if ds.all octalDigit then endNumber (.number (String.ofList ds) "decimal") ds.length r
  else
    match r with
    | 'n' :: _ => endNumber (.number (String.ofList ds) "decimal") ds.length r
    | _ => afterWhole ds r

/-- A number. -/
def number (s : List Char) : Lexeme :=
  match s with
  | '.' :: r => fractionNumber ['.'] r
  | '0' :: x :: r =>
    if x == 'x' || x == 'X' then basedNumber "hex" 16 (fun c => (Json.hexDigit? c).isSome) s
    else if x == 'b' || x == 'B' then basedNumber "binary" 2 (fun c => c == '0' || c == '1') s
    else if x == 'o' || x == 'O' then basedNumber "octal" 8 octalDigit s
    else if Text.isAsciiDigit x then zeroNumber s
    else afterWhole ['0'] (x :: r)
  | s =>
    let (ds, rest, sound) := digitRun Text.isAsciiDigit s
    if sound then afterWhole ds rest else refused ds.length rest

/-! ## Tokens -/

/-- The signs of more than one character, longer ones first. A sign never starts with `>`: what
follows it is joined only where an operator is wanted. -/
def longSigns : List String :=
  ["...", "&&=", "||=", "??=", "**=", "<<=", "===", "!==", "=>", "==", "!=", "<=", "<<", "&&", "||",
   "??", "++", "--", "+=", "-=", "*=", "/=", "%=", "&=", "|=", "^=", "**"]

/-- The signs of one character. -/
def shortSigns : List Char :=
  ['{', '}', '(', ')', '[', ']', ';', ',', '<', '>', '+', '-', '*', '/', '%', '&', '|', '^', '!',
   '~', '?', ':', '=', '.', '@']

def punctuation (p : String) (rest : List Char) : Lexeme :=
  { kind := .punct p, length := p.length, rest, error := none, escaped := false }

/-- A sign, or a character that begins no token. -/
def sign (s : List Char) : Lexeme :=
  match s with
  | [] => { kind := .eof, length := 0, rest := [], error := none, escaped := false }
  | '?' :: '.' :: r =>
    match r with
    | d :: _ => if Text.isAsciiDigit d then punctuation "?" ('.' :: r) else punctuation "?." r
    | [] => punctuation "?." r
  | c :: r =>
    match longSigns.find? (fun p => p.toList.isPrefixOf s) with
    | some p => punctuation p (s.drop p.length)
    | none =>
      if shortSigns.contains c then punctuation (String.singleton c) r
      else
        { kind := .bad, length := 1, rest := r, error := some (.invalidCharacter c, 0),
          escaped := false }

/-- The token in front of a text that starts with no gap. -/
def lexeme (s : List Char) : Lexeme :=
  match s with
  | [] => sign []
  | '"' :: _ => string '"' s
  | '\'' :: _ => string '\'' s
  | '`' :: _ => template true s
  | '.' :: d :: _ => if Text.isAsciiDigit d then number s else sign s
  | '#' :: r =>
    let g := name r
    if g.length == 0 && g.error.isNone then refused 1 r
    else
      { kind := .privateName (String.ofList g.chars), length := g.length + 1, rest := g.rest
        error := g.error.map fun e => (e.1, e.2 + 1), escaped := false }
  | c :: _ =>
    if Text.isAsciiDigit c then number s
    else
      let g := name s
      if g.length == 0 && g.error.isNone then sign s
      else
        { kind := .word (String.ofList g.chars), length := g.length, rest := g.rest
          error := g.error, escaped := g.escaped }

/-! ## Markup -/

/-- Text between tags, up to the next tag or brace; it may not end with the source. A closing brace
or angle bracket may not stand in it; the first one is reported. -/
def markupText (s : List Char) : Lexeme :=
  let (text, rest) := s.span fun c => c != '<' && c != '{'
  let stray := text.findIdx? fun c => c == '>' || c == '}'
  { kind := if rest.isEmpty then .bad else .markupText (String.ofList text)
    length := text.length, rest
    error := stray.map fun k =>
      (if text[k]? == some '>' then .strayInText '>' "gt" else .strayInText '}' "rbrace", k)
    escaped := false }

/-- What follows a tag or an expression inside an element. -/
def markupChild (s : List Char) : Lexeme :=
  match s with
  | [] => sign []
  | '<' :: r => punctuation "<" r
  | '{' :: r => punctuation "\x7b" r
  | _ => markupText s

/-- The rest of a tag or attribute name: names may hold dashes. -/
def dashedTail (s : List Char) : List Char × List Char :=
  s.span fun c => Text.isNamePart c || c == '-'

end Lexer

end LivePreview.Script
