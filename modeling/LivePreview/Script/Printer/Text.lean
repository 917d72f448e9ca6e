import LivePreview.Script.Tree
import LivePreview.Script.Number
import LivePreview.Text.Blank
import LivePreview.Text.Search
/-!
# Texts inside of a printed module

Strings, comments, names of a list and the other parts of a line that hold no expression.
-/

namespace LivePreview.Script.Printer

/-- The indentation of a line. -/
def tabs (depth : Nat) : String := String.ofList (List.replicate depth '\t')

def wrapIf (b : Bool) (s : String) : String := if b then "(" ++ s ++ ")" else s

/-! ## Strings -/

/-- A character of a string; a zero before a digit must not read as an octal escape. -/
def escapeChar (next : Option Char) (c : Char) : List Char :=
  match c with
  | '\n' => ['\\', 'n']
  | '\r' => ['\\', 'r']
  | '\\' => ['\\', '\\']
  | '"' => ['\\', '"']
  | c =>
    let n := c.toNat
    if n = 0 then
      if next.any Text.isAsciiDigit then ['\\', 'x', '0', '0'] else ['\\', '0']
    else if n = 7 then ['\\', 'x', '0', '7']
    else if n = 8 then ['\\', 'b']
    else if n = 11 then ['\\', 'v']
    else if n = 12 then ['\\', 'f']
    else if n = 0x1B then ['\\', 'x', '1', 'B']
    else if n = 0xA0 then ['\\', 'x', 'A', '0']
    else if n = 0x2028 then ['\\', 'u', '2', '0', '2', '8']
    else if n = 0x2029 then ['\\', 'u', '2', '0', '2', '9']
    else [c]

def escapeChars : List Char → List Char
  | [] => []
  | c :: r => escapeChar r.head? c ++ escapeChars r

/-- What the end tag of a script starts with, in lower case. -/
def scriptEnd : List Char := ['<', '/', 's', 'c', 'r', 'i', 'p', 't']

/-- The end tag of a script must not occur in the text: its slash is escaped. -/
def guardScriptEnd : List Char → List Char
  | '<' :: '/' :: r =>
    if (('<' :: '/' :: r).take scriptEnd.length).map Char.toLower = scriptEnd then
      '<' :: '\\' :: '/' :: guardScriptEnd r
    else '<' :: guardScriptEnd ('/' :: r)
  | c :: r => c :: guardScriptEnd r
  | [] => []

/-- A text between the quotes of a string literal. -/
def quoted (s : String) : String := String.ofList (guardScriptEnd (escapeChars s.toList))

/-- A text as a string literal. -/
def quote (s : String) : String := "\"" ++ quoted s ++ "\""

/-- The texts in front of the halves of pairs that stand alone in a text, each with the digits of
the half, and the text behind them. -/
def splitHalves : List Char → List (List Char × List Char) × List Char
  | [] => ([], [])
  | '\uFFFD' :: a :: b :: c :: d :: r =>
    let (pieces, last) := splitHalves r
    if [a, b, c, d] = ['f', 'f', 'f', 'd'] then inFront replacementMark pieces last
    else (([], [a, b, c, d]) :: pieces, last)
  | c :: r =>
    let (pieces, last) := splitHalves r
    inFront c pieces last
where
  inFront (c : Char) (pieces : List (List Char × List Char)) (last : List Char) :
      List (List Char × List Char) × List Char :=
    match pieces with
    | [] => ([], c :: last)
    | (s, digits) :: more => ((c :: s, digits) :: more, last)

/-- A string with halves of pairs that stand alone, which are printed as escapes. -/
def quoteBroken (text : String) : String :=
  let (pieces, last) := splitHalves text.toList
  "\"" ++ String.join (pieces.map fun p =>
    quoted (String.ofList p.1) ++ "\\u" ++ String.ofList p.2) ++ quoted (String.ofList last) ++ "\""

def quoteLiteral (l : StringLiteral) : String :=
  if l.hasHalves then quoteBroken l.text else quote l.text

/-- The first quote in a directive that is not escaped. -/
def firstQuote? : List Char → Option Char
  | [] => none
  | '\\' :: _ :: r => firstQuote? r
  | c :: r => if c == '"' || c == '\'' then some c else firstQuote? r

/-- A directive, in quotes that do not occur in it. -/
def directive (raw : String) : String :=
  let q := if firstQuote? raw.toList == some '"' then "'" else "\""
  q ++ raw ++ q

/-- The raw text of a template. -/
def templateText (raw : String) : String := String.ofList (guardScriptEnd raw.toList)

/-! ## Comments -/

/-- A comment; its further lines are indented anew. -/
def comment (depth : Nat) (c : Comment) : String :=
  let lines := Text.splitWhen (fun c => c == '\n') (c.text.toList.filter (· != '\r'))
  match lines with
  | [] => ""
  | first :: more =>
    String.ofList first ++
      String.join (more.map fun l => "\n" ++ tabs depth ++ String.ofList (l.dropWhile Text.isBlank))

/-- Whether a comment states the terms of use, which never shares a line with another one. -/
def isLegal (c : Comment) : Bool :=
  ["//!", "/*!"].any (fun mark => mark.toList.isPrefixOf c.text.toList) ||
    ["@license", "@preserve"].any fun mark => (Text.cutChars? mark.toList c.text.toList).isSome

/-- What stands between a comment and the one before it. -/
def beforeComment (depth : Nat) (c : Comment) : String :=
  if c.afterBreak then "\n" ++ tabs depth else if isLegal c then "\n" else " "

/-- Further comments, on lines of their own where they were. -/
def moreComments (depth : Nat) : List Comment → String
  | [] => ""
  | c :: r => beforeComment depth c ++ comment depth c ++ moreComments depth r

/-- Whether a line ends after the comments. -/
def endsLine (cs : List Comment) : Bool :=
  match cs.getLast? with
  | some c => c.isLine || c.beforeBreak
  | none => false

/-- The comments in front of something, without what separates them from it. -/
def comments (depth : Nat) (cs : List Comment) : String :=
  match cs with
  | [] => ""
  | c :: r => comment depth c ++ moreComments depth r

/-- The comments in front of something on the same or the next line. -/
def leading (depth : Nat) (cs : List Comment) : String :=
  comments depth cs ++ (if endsLine cs then "\n" ++ tabs depth else " ")

/-! ## Imports and exports -/

def listName (quoted : Bool) (n : String) : String := if quoted then quote n else n

/-- An entry of a list: the first name, and the second one if it differs. -/
def listEntry (first : String) (firstQuoted : Bool) (second : String) (secondQuoted : Bool) :
    String :=
  if first = second && firstQuoted == secondQuoted then listName firstQuoted first
  else listName firstQuoted first ++ " as " ++ listName secondQuoted second

def importEntry (a : Alias) : String := listEntry a.outer a.outerQuoted a.inner a.innerQuoted

/-- An entry of a list of exports; the comments in front of it stand on lines of their own. -/
def exportEntry (a : Alias) : String :=
  let entry := listEntry a.inner a.innerQuoted a.outer a.outerQuoted
  if a.comments.isEmpty then entry
  else String.join (a.comments.map fun c => "\n" ++ comment 0 c) ++ "\n " ++ entry

/-- Entries in braces. -/
def braced (entries : List String) : String :=
  if entries.isEmpty then "\x7b\x7d" else "\x7b " ++ Text.joinWith ", " entries ++ " \x7d"

/-- The bindings of an import: the named ones stand together in braces. -/
def importBindings (bs : List ImportBinding) : String :=
  let named := bs.filterMap fun b =>
    match b with
    | .named a => some (importEntry a)
    | _ => none
  let others := bs.filterMap fun b =>
    match b with
    | .whole n => some n
    | .space n => some ("* as " ++ n)
    | .named _ => none
  let braces := if named.isEmpty && !others.isEmpty then [] else [braced named]
  Text.joinWith ", " (others ++ braces)

/-- The attributes behind the source of an import. -/
def importAttributes : Option ImportAttributes → String
  | none => ""
  | some a =>
    " " ++ a.keyword ++ " " ++
      braced (a.entries.map fun e => listName e.keyQuoted e.key ++ ": " ++ quoteLiteral e.value)

def importText (phase : Option String) (bindings : Option (List ImportBinding))
    (source : StringLiteral) (attributes : Option ImportAttributes) : String :=
  "import " ++ (match phase with
    | some w => w ++ " "
    | none => "") ++ (match bindings with
    | some bs => importBindings bs ++ " from "
    | none => "") ++ quoteLiteral source ++ importAttributes attributes ++ ";\n"

/-- The source behind a list of exports. -/
def fromText (source : Option StringLiteral) (attributes : Option ImportAttributes) : String :=
  match source with
  | some s => " from " ++ quoteLiteral s ++ importAttributes attributes
  | none => ""

end LivePreview.Script.Printer
