import LivePreview.Script.Entity
import LivePreview.Script.Lowering.State
/-!
# Markup as calls

In the automatic style an element becomes the call `jsx(type, properties, key)`, or `jsxs` if it has two children or more;
its children are a property. If a key follows properties that are spread out, it becomes the call
`createElement(type, properties, child, …)` instead, which takes the key from the properties. The
functions are imported where needed. In the classic style it becomes the call
`createElement(type, properties, child, …)` of a function that is in scope. The calls are marked as
free of side effects.
-/

namespace LivePreview.Script.Lowering

/-! ## Text -/

/-- The lines of a text between tags that count. Blanks next to a line break do not, nor do lines of
nothing else. -/
def trimmedLines (isFirst : Bool) : List (List Char) → List (List Char)
  | [] => []
  | [last] =>
    if isFirst then [last]
    else
      match last.dropWhile Lexer.isSpace with
      | [] => []
      | s => [s]
  | line :: r =>
    let s := if isFirst then line else line.dropWhile Lexer.isSpace
    let s := (s.reverse.dropWhile Lexer.isSpace).reverse
    if s = [] then trimmedLines false r else s :: trimmedLines false r

/-- The text that a piece between tags stands for, if any. -/
def childText? (raw : String) : Option String :=
  let lines := trimmedLines true (Text.splitWhen Lexer.isLineBreak raw.toList)
  let text := Text.joinWith " " (lines.map fun l => Entity.decode (String.ofList l))
  if lines.all (· = []) then none else some text

/-! ## Attributes -/

/-- The key under which an attribute is a property. -/
def attributeKey (name : String) : Expr :=
  if name.toList.any (fun c => c == '-' || c == ':') then .string name else .name name

/-- Whether an object sets its prototype. -/
def setsPrototype (members : List Member) : Bool :=
  members.any fun x =>
    match x with
    | .property (.name k) _ => k == "__proto__"
    | .property (.string k) _ => k == "__proto__"
    | _ => false

/-- The properties of an object that is spread out; its own ones if it is written down. -/
def spreadOut (e : Expr) : List Member :=
  match e.bare with
  | .object members => if setsPrototype members then [.spread e] else members
  | _ => [.spread e]

/-- Whether a key follows properties that are spread out. -/
def keyFollowsSpread (spread : Bool) : List Markup → Bool
  | [] => false
  | .spreadAttribute _ :: r => keyFollowsSpread true r
  | .attribute _ name _ :: r => (spread && name == "key") || keyFollowsSpread spread r
  | .bareAttribute _ name :: r => (spread && name == "key") || keyFollowsSpread spread r
  | _ :: r => keyFollowsSpread spread r

/-! ## Elements -/

/-- A call without side effects. -/
def pureCall (callee : Expr) (args : List Expr) : Expr := .call callee args false true

/-- The call of an imported function for an element whose key may be an argument of its own. -/
def importedCall (source : String) (tag : Lower Expr) (properties : List Member)
    (key : Option Expr) (children : List Expr) : Lower Expr := do
  let tag ← tag
  let jsx ← runtimeName (source ++ "/jsx-runtime") (if 2 ≤ children.length then "jsxs" else "jsx")
  let properties :=
    match children with
    | [] => properties
    | [child] => properties ++ [.property (.name "children") child]
    | children => properties ++ [.property (.name "children") (.array children)]
  return pureCall (.name jsx) (tag :: .object properties :: key.toList)

/-- The properties of an element in the classic style: none, those of the only object that is spread
out, or an object. -/
def classicProperties (attributes : List Markup) (properties : List Member) : Expr :=
  match attributes with
  | [] => .null
  | [.spreadAttribute e] => e
  | _ => .object properties

mutual

/-- The call for a piece of markup. -/
def markup : Markup → Lower Expr
  | .element tag attributes children => do
    match (← get).style with
    | .automatic source =>
      let keyed := keyFollowsSpread false attributes
      let (properties, key) ← attributeList keyed attributes
      let children ← childList children
      if keyed then
        let createElement ← runtimeName source "createElement"
        return pureCall (.name createElement) (tag :: .object properties :: children)
      else importedCall source (pure tag) properties key children
    | .classic element _ =>
      let (properties, _) ← attributeList true attributes
      let children ← childList children
      return pureCall element (tag :: classicProperties attributes properties :: children)
  | .fragment children => do
    let children ← childList children
    match (← get).style with
    | .automatic source =>
      let fragment : Lower Expr :=
        return .name (← runtimeName (source ++ "/jsx-runtime") "Fragment")
      importedCall source fragment [] none children
    | .classic element fragment => return pureCall element (fragment :: .null :: children)
  | .prefixedElement offset => do
    report .prefixedTag offset
    return .null
  | .text raw => return .string (Entity.decode raw)
  | .embedded e => return e
  | .spreadChild e => return .array [.spread e]
  | _ => return .null

/-- The properties of a list of attributes, and the key unless it is one of them, which `keyed`
tells. -/
def attributeList (keyed : Bool) : List Markup → Lower (List Member × Option Expr)
  | [] => return ([], none)
  | .attribute _ name value :: r => do
    let value ← markup value
    let (properties, key) ← attributeList keyed r
    if name == "key" && !keyed then return (properties, key <|> some value)
    else return (.property (attributeKey name) value :: properties, key)
  | .bareAttribute offset name :: r => do
    if name == "key" then report .valuelessKey offset
    let (properties, key) ← attributeList keyed r
    if name == "key" && !keyed then return (properties, key)
    else return (.property (attributeKey name) (.bool true) :: properties, key)
  | .spreadAttribute e :: r => do
    let (properties, key) ← attributeList keyed r
    return (spreadOut e ++ properties, key)
  | _ :: r => attributeList keyed r

/-- The children that count. -/
def childList : List Markup → Lower (List Expr)
  | [] => return []
  | .emptyBraces :: r => childList r
  | .text raw :: r => do
    match childText? raw with
    | some text => return .string text :: (← childList r)
    | none => childList r
  | c :: r => do
    let c ← markup c
    return c :: (← childList r)

end

/-- Lowers an expression that is a piece of markup. -/
def onMarkup (e : Expr) : Lower Expr := do
  match e with
  | .markup piece =>
    modify fun s => { s with sawMarkup := true }
    markup piece
  | e => return e

end LivePreview.Script.Lowering
