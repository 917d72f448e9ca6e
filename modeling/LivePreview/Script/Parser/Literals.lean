import LivePreview.Script.Parser.Targets
/-!
# Literals

Templates, regular expressions, arrays, objects and parentheses. Arrays, objects and parentheses
keep what would be wrong with them as targets of assignments.
-/

namespace LivePreview.Script.Parser

variable (g : Grammar)

/-- An expression in which `in` is an operator. -/
def expressionWithIn : Parser Expr :=
  within (fun c => { c with allowIn := true }) (expression g)

/-- An expression without commas in which `in` is an operator. -/
def assignmentWithIn : Parser Expr :=
  within (fun c => { c with allowIn := true }) g.assignment

/-! ## Templates and regular expressions -/

/-- The piece that opens a template or one that goes on with it, and whether it is the last one. The
escapes of an untagged template must stand for texts. -/
def templatePiece (opens isTagged : Bool) : Parser (Option (String × Bool)) := do
  let t ← token
  match t.kind with
  | .template raw isFirst last sound =>
    if isFirst != opens then return none
    if !isTagged && !sound then note .templateEscape (t.start + 1)
    advance
    return some (raw, last)
  | _ => return none

/-- A template so far: its raw texts and its expressions, last ones first. -/
structure TemplateParts where
  chunks : List String
  parts : List Expr
  isClosed : Bool

/-- One more expression of a template, or the text behind one. -/
def templateStep (isTagged : Bool) (t : TemplateParts) : Parser (Option TemplateParts) := do
  if t.isClosed then return none
  else if ← atEnd then failExpected "\x7d"
  else
    match ← templatePiece false isTagged with
    | some (raw, last) => return some { t with chunks := raw :: t.chunks, isClosed := last }
    | none =>
      let e ← expressionWithIn g
      if ← atSign "\x7d" then recut (Lexer.template false) ['}']
      return some { t with parts := e :: t.parts }

/-- A template. -/
def template (isTagged : Bool) : Parser Expr := do
  match ← templatePiece true isTagged with
  | none => unexpected
  | some (raw, last) =>
    if last then return .template [raw] []
    else
      -- an expression follows the first piece
      let e ← expressionWithIn g
      if ← atSign "\x7d" then recut (Lexer.template false) ['}']
      let t ← grow (templateStep g isTagged) ⟨[raw], [e], false⟩
      return .template t.chunks.reverse t.parts.reverse

/-- Reads a slash again as the start of a regular expression. -/
def regex : Parser Expr := do
  match ← kind with
  | .punct p => recut Lexer.regex p.toList
  | _ => return ← unexpected
  match ← kind with
  | .regex body flags =>
    advance
    return .regex body flags
  | _ => unexpected

/-! ## Arrays -/

/-- The comma in front of the current token, if a list has one there. -/
def trailingComma (isTrailing : Bool) : Parser (Option Nat) := do
  let s ← get
  return if isTrailing then some (s.previousStop - 1) else none

/-- What takes the rest in an array or an object, behind its points, and what is wrong with it as a
target. -/
def spreadPart : Parser (Expr × TargetFaults) := do
  let offset ← start
  let e ← assignmentWithIn g
  return (e, ← faultsOf e offset)

/-- An element of an array, and what it is as a part of a target. -/
def arrayElement : Parser (Expr × TargetPart) := do
  let offset ← start
  if ← atSigns [",", "]"] then return (.hole, .value .none)
  else if ← eat "..." then
    let (e, f) ← spreadPart g
    return (.spread e, .rest offset f)
  else
    let e ← assignmentWithIn g
    return (e, .value (← defaultedFaultsOf e offset))

/-- An array. -/
def array : Parser Expr := do
  let offset ← start
  expect "["
  let (items, isTrailing) ← within (fun c => { c with decorator := false })
    (listAndTrail "]" "," (arrayElement g))
  let comma ← trailingComma isTrailing
  expect "]"
  keepFaults offset (.ofParts comma (items.map (·.2)))
  return .array (items.map (·.1))

/-! ## Objects -/

/-- A method of an object from its parameters on. As a part of a target it is wrong. -/
def objectMethod (kind : MethodKind) (isAsync isGenerator : Bool) (key : Expr) :
    Parser (Member × TargetPart) := do
  let offset ← start
  let parts ← functionParts g .plain isAsync isGenerator
  checkAccessor kind parts
  match parts.body with
  | some body =>
    return (.method false kind [] key (.function none isAsync isGenerator parts.params body),
      .value (.stopAt .invalidTarget offset))
  | none => failExpected "\x7b"

/-- A getter or a setter of an object, behind its word. -/
def objectAccessor (ms : Modifiers) (kind : MethodKind) : Parser (Member × TargetPart) := do
  allowOnly [] misplacedHere ms
  objectMethod g kind false false (← memberKey g)

/-- A name that is key and value at once, perhaps with a default, behind it. -/
def shorthandMember (offset : Nat) (key : Expr) : Parser (Member × TargetPart) := do
  match key with
  | .name n =>
    record n
    if ← eat "=" then
      let value ← assignmentWithIn g
      modify fun s => { s with pendingDefaults := offset :: s.pendingDefaults }
      return (.shorthandDefault n value, .value ⟨[], none, [offset]⟩)
    else return (.shorthand n, .value .none)
  | _ => unexpected

/-- Whether the current token is a name that may be used here. -/
def atReference : Parser Bool := do
  let c ← context
  match ← kind with
  | .word w =>
    return !isReserved w && !(w == "await" && c.allowAwait) && !(w == "yield" && c.allowYield)
  | _ => return false

/-- The rest of an object in a target must be a name or a member. -/
def restFaults (e : Expr) (offset : Nat) (f : TargetFaults) : TargetFaults :=
  match e with
  | .array _ => f.noting .restTarget offset
  | .object _ => f.noting .restTarget offset
  | .commented _ _ => f.noting .restTarget offset
  | _ => f

/-- A member of an object, and what it is as a part of a target. -/
def objectMember : Parser (Member × TargetPart) := do
  let offset ← start
  if ← eat "..." then
    let inner ← start
    let (e, f) ← spreadPart g
    return (.spread e, .rest offset (restFaults e inner f))
  else
    let ms ← modifiers false false
    if ← atModifier "get" then
      advance
      objectAccessor g ms .getter
    else if ← atModifier "set" then
      advance
      objectAccessor g ms .setter
    else
      let isGenerator ← eat "*"
      let isReference ← atReference
      let keyOffset ← start
      let key ← memberKey g
      if isGenerator || (← atSign "(") || ((← typed) && (← atAngle)) then
        allowOnly ["async"] misplacedHere ms
        objectMethod g .method (ms.has "async") isGenerator key
      else
        let found ←
          if isReference && !(← atSign ":") then shorthandMember g keyOffset key
          else
            expect ":"
            let valueOffset ← start
            let value ← assignmentWithIn g
            pure (.property key value, .value (← defaultedFaultsOf value valueOffset))
        allowOnly [] misplacedHere ms
        return found

/-- An object, with the comments in front of it. -/
def object : Parser Expr := do
  let offset ← start
  let comments ← takeComments
  expect "\x7b"
  let (items, isTrailing) ← within (fun c => { c with decorator := false })
    (listAndTrail "\x7d" "," (objectMember g))
  let comma ← trailingComma isTrailing
  expect "\x7d"
  keepFaults offset (.ofParts comma (items.map (·.2)))
  let e : Expr := .object (items.map (·.1))
  return if comments.isEmpty then e else .commented comments e

/-! ## Parentheses -/

/-- Expressions in parentheses: at least one, and no comma behind the last one. -/
def parenthesized : Parser Expr := do
  let opening ← start
  expect "("
  let inner ← start
  let (es, isTrailing) ← within (fun c => { c with allowIn := true, decorator := false })
    (listAndTrail ")" "," g.assignment)
  match ← trailingComma isTrailing with
  | some comma => fail (.expected ")" ",") comma
  | none => pure ()
  expect ")"
  match es with
  | [] => fail .nothingInParentheses opening
  | [e] =>
    let f ← faultsOf e inner
    keepFaults opening (if isLiteralPattern e then .stopAt .invalidTarget opening else f)
    return .paren e
  | es =>
    keepFaults opening (.stopAt .invalidTarget inner)
    return .paren (.sequence es)

end LivePreview.Script.Parser
