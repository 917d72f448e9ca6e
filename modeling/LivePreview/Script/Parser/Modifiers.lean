import LivePreview.Script.Parser.Basic
/-!
# Modifiers

Words in front of a declaration, a member or a parameter that say more about it. Such a word may
also be a name: it is a modifier if the token behind it can go on with what it modifies. Which
modifiers may stand where is checked once they have been read.
-/

namespace LivePreview.Script

/-- A modifier in its place. -/
structure Modifier where
  word : String
  offset : Nat

/-- The modifiers in front of something, first ones first. -/
abbrev Modifiers := List Modifier

/-- Whether a word is one of the modifiers. -/
def Modifiers.has (ms : Modifiers) (w : String) : Bool := ms.any fun m => m.word == w

namespace Parser

/-- The words that may be modifiers. -/
def modifierWords : List String :=
  ["abstract", "accessor", "async", "const", "declare", "default", "export", "in", "out", "override",
   "private", "protected", "public", "readonly", "static"]

/-- The modifiers that say from where something can be reached. -/
def accessWords : List String := ["public", "private", "protected"]

/-- The modifiers that turn a constructor's parameter into a field. -/
def fieldWords : List String := accessWords ++ ["override", "readonly"]

/-! ## Recognising modifiers -/

/-- Whether what is modified may start with the token. -/
def mayFollowModifier (t : Token) : Bool :=
  t.kind.isWord || t.kind.isPrivate || t.kind.isString || t.kind.isNumber ||
    t.kind.isSign ["[", "\x7b", "*", "..."]

/-- Whether a default export starts at the current token. -/
def atDefaultExport : Parser Bool := do
  if (← atWords ["class", "function", "interface"]) || (← atSign "@") then return true
  else if ← atWord "abstract" then peekNext fun t => t.kind == .word "class"
  else if ← atWord "async" then peekNext fun t => t.kind == .word "function" && !t.afterBreak
  else return false

/-- Whether what follows the word `export` shows that it is a modifier. -/
def mayFollowExport (t : Token) : Bool :=
  t.kind == .punct "@" ||
    (mayFollowModifier t && !t.kind.isSign ["*", "\x7b"] && t.kind != .word "as")

/-- Whether what follows the current word shows that it is a modifier. -/
def modifierFollows (w : String) : Parser Bool := peek do
  advanceName
  let t ← token
  if w == "const" then return t.kind == .word "enum"
  else if w == "export" then
    if t.kind == .word "default" then
      advanceName
      atDefaultExport
    else if t.kind == .word "type" then
      advanceName
      return mayFollowExport (← token)
    else return mayFollowExport t
  else if w == "default" then atDefaultExport
  else if ["static", "get", "set"].contains w then return mayFollowModifier t
  else return mayFollowModifier t && !t.afterBreak

/-- Whether the current token is the word, and a modifier. -/
def atModifier (w : String) : Parser Bool := do
  if ← atWord w then modifierFollows w else return false

/-! ## Reading modifiers -/

/-- The modifiers that may not stand in front of one. -/
def laterModifiers (w : String) : List String :=
  if accessWords.contains w then ["override", "static", "accessor", "readonly"]
  else if w == "static" then ["readonly", "accessor", "override"]
  else if w == "override" then ["readonly", "accessor"]
  else if w == "export" then ["declare", "abstract", "async"]
  else []

/-- Notes that a modifier is repeated or comes too late. -/
def checkOrder (before : Modifiers) (m : Modifier) : Parser Unit := do
  let repeated : Option SyntaxError :=
    if accessWords.contains m.word then
      if accessWords.any before.has then some .accessibilitySeen else none
    else if before.has m.word then some (.modifierSeen m.word)
    else none
  let late := (laterModifiers m.word).find? before.has
  match repeated <|> late.map (.modifierOrder m.word) with
  | some cause => note cause m.offset
  | none => pure ()

/-- Goes behind a modifier, which follows others. -/
def takeModifier (before : Modifiers) (w : String) : Parser Modifiers := do
  let m : Modifier := ⟨w, ← start⟩
  advance
  checkOrder before m
  return before ++ [m]

/-- One more modifier. The word `const` is one only where `constant` says so, and `static` is none
in front of a block if `members` says so, nor a second time. -/
def oneModifier (constant members : Bool) (before : Modifiers) : Parser (Option Modifiers) := do
  let t ← token
  match t.kind with
  | .word w =>
    let isModifier ←
      if w == "const" then
        if constant then peekNext fun t => !t.afterBreak && mayFollowModifier t else pure false
      else if w == "static" && before.has w then pure false
      else if w == "static" && members && (← peekNext fun t => t.kind == .punct "\x7b") then
        pure false
      else if modifierWords.contains w && !t.escaped then modifierFollows w
      else pure false
    if isModifier then return some (← takeModifier before w) else return none
  | _ => return none

/-- The modifiers at the current token. -/
def modifiers (constant members : Bool) : Parser Modifiers := grow (oneModifier constant members) []

/-- One more modifier in front of a declaration. -/
def oneDeclarationModifier (before : Modifiers) : Parser (Option Modifiers) := do
  match ← kind with
  | .word w =>
    let isModifier ←
      if w == "const" then pure false
      else if w == "accessor" then peekNext mayFollowModifier
      else if modifierWords.contains w then modifierFollows w
      else pure false
    if isModifier then return some (← takeModifier before w) else return none
  | _ => return none

/-- The modifiers in front of a declaration. -/
def declarationModifiers : Parser Modifiers := grow oneDeclarationModifier []

/-! ## Checking modifiers -/

/-- Notes the modifiers that may not stand here. -/
def allowOnly (allowed : List String) (cause : String → SyntaxError) (ms : Modifiers) :
    Parser Unit :=
  ms.forM fun m => if allowed.contains m.word then pure () else note (cause m.word) m.offset

/-- Notes the given modifiers, which may not stand here. -/
def allowNone (refused : List String) (cause : String → SyntaxError) (ms : Modifiers) :
    Parser Unit :=
  ms.forM fun m => if refused.contains m.word then note (cause m.word) m.offset else pure ()

/-- A modifier that may not stand where it stands. -/
def misplacedHere (w : String) : SyntaxError := .misplacedModifier w .here

end Parser

end LivePreview.Script
