import LivePreview.Script.Parser.Expressions
/-!
# Markup

Elements and fragments. Between tags the source is read as text; in tags and braces it is read as
tokens. The closing tag of an element repeats the name of its opening tag.
-/

namespace LivePreview.Script.Parser

variable (g : Grammar)

/-- Goes to what follows inside an element, behind the given sign. -/
def expectBeforeText (p : String) : Parser Unit := do
  if ← atSign p then advanceMarkup else failExpected p

/-- Goes behind the sign that closes a tag or braces; inside an element, text follows it. -/
def expectClosing (inElement : Bool) (p : String) : Parser Unit :=
  if inElement then expectBeforeText p else expect p

/-- A word that goes on with dashes. -/
def dashedName : Parser String := do
  match ← kind with
  | .word w =>
    modify fun s =>
      let (tail, rest) := Lexer.dashedTail s.rest
      { s with
        token := { s.token with
          kind := .word (w ++ String.ofList tail), stop := s.token.stop + tail.length }
        rest }
    let full ← anyWord
    return full
  | _ => unexpected

/-- A name without dashes, which stands next to a point. -/
def memberName (n : String) (offset : Nat) : Parser Unit := do
  if n.toList.contains '-' then fail .dashedMember offset

/-- The name of a tag: as written, and what it refers to; nothing if it has a prefix. -/
def tagName : Parser (String × Option Expr) := do
  let offset ← start
  let first ← dashedName
  if ← eat ":" then
    let second ← dashedName
    return (first ++ ":" ++ second, none)
  else
    let isBuiltIn :=
      first.toList.any (· == '-') ||
        (match first.toList with
         | c :: _ => Text.isAsciiLower c
         | [] => false)
    if ← atSign "." then
      memberName first offset
      if first != "this" then record first
      let object : Expr := if first == "this" then .thisRef else .name first
      let (text, e) ← grow
        (fun (acc : String × Expr) => do
          if ← eat "." then
            let offset ← start
            let n ← dashedName
            memberName n offset
            return some (acc.1 ++ "." ++ n, .member acc.2 n false)
          else return none)
        (first, object)
      return (text, some e)
    else if first == "this" then return (first, some .thisRef)
    else if isBuiltIn then return (first, some (.string first))
    else
      record first
      return (first, some (.name first))

/-- An expression in braces, which must not be a list of expressions. -/
def bracedExpression : Parser Expr := do
  let offset ← start
  let e ← within
    (fun c => { c with allowIn := true, allowYield := false, decorator := false }) (expression g)
  match e with
  | .sequence _ => fail .commaInBraces offset
  | e => return e

/-- The token of an attribute value: quotes enclose it without escapes. -/
def attributeLexeme (s : List Char) : Lexeme :=
  match s with
  | '"' :: _ => Lexer.attributeString '"' s
  | '\'' :: _ => Lexer.attributeString '\'' s
  | _ => Lexer.lexeme s

/-- The value of an attribute behind its equals sign. -/
def attributeValue : Parser Markup := do
  let t ← token
  match t.kind with
  | .string v _ =>
    advance
    return .text v
  | .punct "<" => g.markup false
  | .punct "\x7b" =>
    advance
    if ← atSign "\x7d" then
      note .emptyAttribute t.start
      advance
      return .emptyBraces
    else
      let e ← bracedExpression g
      expect "\x7d"
      return .embedded e
  | _ => unexpected

/-- An attribute of an element. -/
def attributeItem : Parser (Option Markup) := do
  let t ← token
  match t.kind with
  | .punct "\x7b" =>
    advance
    expect "..."
    let e ← bracedExpression g
    expect "\x7d"
    return some (.spreadAttribute e)
  | .punct ">" => return none
  | .punct "/" => return none
  | .punct "<" => return none
  | _ =>
    let first ← dashedName
    let name ← if ← eat ":" then pure (first ++ ":" ++ (← dashedName)) else pure first
    if ← atSign "=" then
      advanceWith attributeLexeme
      return some (.attribute t.start name (← attributeValue g))
    else return some (.bareAttribute t.start name)

/-- One child of an element; `none` before a closing tag. -/
def child : Parser (Option Markup) := do
  match ← kind with
  | .markupText raw =>
    advanceMarkup
    return some (.text raw)
  | .punct "<" =>
    if ← peekNext fun t => t.kind == .punct "/" then return none
    else return some (← g.markup true)
  | .punct "\x7b" =>
    advance
    if ← eat "..." then
      let e ← bracedExpression g
      expectBeforeText "\x7d"
      return some (.spreadChild e)
    else if ← atSign "\x7d" then
      advanceMarkup
      return some .emptyBraces
    else
      let e ← bracedExpression g
      expectBeforeText "\x7d"
      return some (.embedded e)
  | _ => unexpected

/-- An element or a fragment at its opening angle bracket. -/
def markupBody (inElement : Bool) : Parser Markup := do
  expect "<"
  if ← atSign ">" then
    advanceMarkup
    let children ← many (child g)
    expect "<"
    expect "/"
    expectClosing inElement ">"
    return .fragment children
  else if (← kind).isWord then
    let nameOffset ← start
    let (text, tag) ← tagName
    if ← typed then typeArguments g
    let attributes ← many (attributeItem g)
    let element (children : List Markup) : Markup :=
      match tag with
      | some tag => .element tag attributes children
      | none => .prefixedElement nameOffset
    if ← eat "/" then
      expectClosing inElement ">"
      return element []
    else
      expectBeforeText ">"
      let children ← many (child g)
      expect "<"
      expect "/"
      let closingOffset ← start
      let (closing, _) ← tagName
      if closing != text then note (.closingTag text) closingOffset
      expectClosing inElement ">"
      return element children
  else unexpected

end LivePreview.Script.Parser
