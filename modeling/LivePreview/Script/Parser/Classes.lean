import LivePreview.Script.Parser.Functions
/-!
# Classes

A class member is read from its modifiers on; which of them may stand there depends on what the
member turns out to be. A member that is only declared leaves nothing behind, apart from what its
key computes.
-/

namespace LivePreview.Script.Parser

variable (g : Grammar)

/-! ## Keys of members -/

/-- The key of a class member in its place. -/
structure ClassKey where
  key : Expr
  /-- Where it starts, behind a bracket. -/
  offset : Nat
  /-- How messages call the member. -/
  text : String

/-- Whether a key is a given word, perhaps in quotes. -/
def ClassKey.isWord (k : ClassKey) (w : String) : Bool :=
  match k.key with
  | .name n => n == w
  | .string n => n == w
  | _ => false

/-- A key in brackets, called as it is written. -/
def bracketKey : Parser ClassKey := do
  let opening ← token
  let behind := (← get).rest
  expect "["
  let offset ← start
  let e ← within (fun c => { c with allowIn := true, decorator := false }) g.assignment
  let length := (← get).previousStop - offset
  expect "]"
  let text := (behind.drop (offset - opening.stop)).take length
  return ⟨.computed e, offset, String.ofList text⟩

/-- The key of a class member behind its modifiers. -/
def classKey (ms : Modifiers) : Parser ClassKey := do
  let t ← token
  match t.kind with
  | .privateName n =>
    if ← typed then
      allowNone accessWords (fun w => .misplacedModifier w .privateName) ms
    if n == "constructor" then note .privateConstructor t.start
    advance
    return ⟨.privateName n, t.start, "#" ++ n⟩
  | .punct "[" => bracketKey g
  | _ =>
    let key ← memberKey g
    let text :=
      match key with
      | .name n => n
      | .string v => v
      | .number n => n
      | _ => ""
    return ⟨key, t.start, text⟩

/-! ## Members -/

/-- What stands in front of a class member. -/
structure MemberHead where
  decorators : List Expr
  modifiers : Modifiers

/-- What remains of a member that is only declared. -/
def signatureMember : Expr → Option Member
  | .computed e => some (.signature (.computed e))
  | _ => none

/-- Notes the modifiers that no method and no property may have, and those that only typed sources
know. -/
def checkModifiers (ms : Modifiers) : Parser Unit := do
  allowNone ["in", "out"] (fun w => .misplacedModifier w .onlyTypeParameter) ms
  allowNone ["const"] (fun _ => .constantMember) ms
  allowNone ["export", "default"] misplacedHere ms
  if !(← typed) then allowOnly ["accessor", "async", "static"] misplacedHere ms

/-- Notes the modifiers that no method may have. -/
def checkMethodModifiers (ms : Modifiers) : Parser Unit := do
  checkModifiers ms
  allowNone ["declare"] (fun w => .misplacedModifier w .classMember) ms
  allowNone ["readonly"] (fun w => .misplacedModifier w .onlyProperty) ms
  allowNone ["accessor"] misplacedHere ms

/-- Notes a static member of the name that every class has already. -/
def checkStaticName (ms : Modifiers) (k : ClassKey) : Parser Unit := do
  if ms.has "static" && k.isWord "prototype" then note .staticPrototype k.offset

/-- A method from its parameters on. -/
def methodMember (head : MemberHead) (kind : MethodKind) (isGenerator : Bool) (k : ClassKey) :
    Parser (Option Member) := do
  let ms := head.modifiers
  let isAsync := ms.has "async"
  checkMethodModifiers ms
  let parts ← functionParts g .method isAsync isGenerator
  checkAccessor kind parts
  checkStaticName ms k
  if ms.has "abstract" && parts.body.isSome then
    note (if kind = .method then .abstractMethod k.text else .abstractAccessor k.text) k.offset
  match parts.body with
  | some body =>
    return some (.method (ms.has "static") kind head.decorators k.key
      (.function none isAsync isGenerator parts.params body))
  | none =>
    endStatement
    return signatureMember k.key

/-- A getter or a setter behind its word. -/
def accessorMember (head : MemberHead) (kind : MethodKind) : Parser (Option Member) := do
  let ms := head.modifiers
  let k ← classKey g ms
  if !ms.has "static" && k.isWord "constructor" then note .constructorAccessor k.offset
  allowNone ["async"] misplacedHere ms
  methodMember g head kind false k

/-- A constructor from behind its key on. -/
def constructorMember (head : MemberHead) (k : ClassKey) : Parser (Option Member) := do
  let ms := head.modifiers
  checkMethodModifiers ms
  if ms.has "async" then note .constructorAsync k.offset
  let parts ← functionParts g .constructor false false
  match parts.typeParameters with
  | some offset => note .constructorTypeParameters offset
  | none => pure ()
  refuseThis .thisInConstructor parts.this
  match parts.body with
  | some body =>
    return some (.method false .method head.decorators k.key
      (.function none false false parts.params body))
  | none =>
    endStatement
    return none

/-- The end of a property: a semicolon, or a place where it may be missing. -/
def endProperty : Parser Unit := do
  if ← mayEndStatement then discard <| eat ";" else failExpected ";"

/-- A property from behind its key and its marks on. -/
def propertyMember (head : MemberHead) (k : ClassKey) : Parser (Option Member) := do
  let ms := head.modifiers
  checkModifiers ms
  allowNone ["async"] misplacedHere ms
  discard <| typeAnnotation g
  let value ←
    if ← eat "=" then
      some <$> within
        (fun c => { c with
          allowIn := true, allowAwait := false, allowYield := false, decorator := false })
        (expression g)
    else pure none
  endProperty
  if k.isWord "constructor" then note .constructorField k.offset
  checkStaticName ms k
  if ms.has "abstract" && value.isSome then note (.abstractProperty k.text) k.offset
  return if ms.has "declare" || ms.has "abstract" then signatureMember k.key
    else some (.field (ms.has "static") (ms.has "accessor") head.decorators k.key value)

/-- A method or a property at its star or its key. -/
def keyedMember (head : MemberHead) : Parser (Option Member) := do
  let ms := head.modifiers
  let isGenerator ← eat "*"
  let k ← classKey g ms
  let mark ← start
  let isOptional ← if ← typed then eat "?" else pure false
  if isGenerator || (← atSign "(") || ((← typed) && (← atAngle)) then
    if isGenerator && !ms.has "static" && k.isWord "constructor" then
      note .constructorGenerator k.offset
    methodMember g head .method isGenerator k
  else
    let isDefinite ← if ← typed then eat "!" else pure false
    if isOptional && isDefinite then note .optionalDefinite mark
    propertyMember g head k

/-- Whether the key of a constructor stands at the current token. -/
def atConstructor : Parser Bool := do
  match ← kind with
  | .word w => return w == "constructor"
  | .string v _ => if v == "constructor" then peekNext fun t => t.kind == .punct "(" else return false
  | _ => return false

/-- The statements of a block that belongs to a class, in their braces. -/
def staticBlock : Parser (List Stmt) :=
  within
    (fun c => { c with
      allowIn := true, allowAwait := true, allowYield := false, allowReturn := false
      decorator := false })
    (block g)

/-- A member of a class; nothing if it leaves nothing behind. -/
def classMember : Parser (Option Member) := do
  let comments := (← token).comments
  let decorators ← many (decorator g)
  let offset ← start
  let ms ← modifiers true true
  let head : MemberHead := ⟨decorators, ms⟩
  let found ←
    if (← atWord "static") && (← peekNext fun t => t.kind == .punct "\x7b") then
      advance
      pure (some (.staticBlock (← staticBlock g)))
    else if ← atModifier "get" then
      advance
      accessorMember g head .getter
    else if ← atModifier "set" then
      advance
      accessorMember g head .setter
    else if (← atConstructor) && !ms.has "static" then
      constructorMember g head (← classKey g ms)
    else if (← typed) && (← atIndexSignature) then
      allowOnly ["readonly", "static"] (fun w => .misplacedModifier w .indexSignature) ms
      indexSignature g offset
      if !(← eat ",") then discard <| eat ";"
      pure none
    else keyedMember g head
  return if comments.isEmpty then found else found.map (.commented comments)

/-- The members of a class, with their braces. -/
def classBody : Parser (List Member) := do
  expect "\x7b"
  let found ← many do
    let _ ← many do if ← eat ";" then return some () else return none
    if ← endsStatements then return none else return some (← classMember g)
  expect "\x7d"
  return found.filterMap id

/-! ## Heads of classes -/

/-- What is extended, in its place. -/
structure Base where
  value : Expr
  offset : Nat

/-- One base, with its type arguments. -/
def baseClass : Parser Base := do
  let offset ← start
  let value ← g.leftHandSide
  if ← typed then typeArguments g
  return ⟨value, offset⟩

/-- The bases behind the word `extends`. -/
def baseClasses : Parser (List Base) := do
  let first ← baseClass g
  let more ← many do if ← eat "," then return some (← baseClass g) else return none
  return first :: more

/-- The interfaces behind the word `implements`. -/
def implementedTypes : Parser Unit := do
  namedType g
  let _ ← many do
    if ← eat "," then
      namedType g
      return some ()
    else return none

/-- What the head of a class or of an interface says behind its name. -/
structure Heritage where
  /-- What the last clause of bases gives. -/
  bases : Option (List Base)
  /-- Where interfaces are given first. -/
  implementsAt : Option Nat

/-- One more clause at the head of a class or of an interface. -/
def heritageStep (h : Heritage) : Parser (Option Heritage) := do
  let offset ← start
  if ← atWord "extends" then
    if h.bases.isSome then note .extendsSeen offset
    else
      match h.implementsAt with
      | some before => note .extendsLate before
      | none => pure ()
    advance
    return some { h with bases := some (← baseClasses g) }
  else if (← typed) && (← atWord "implements") then
    match h.implementsAt with
    | some before => note .implementsSeen before
    | none => pure ()
    advance
    implementedTypes g
    return some { h with implementsAt := h.implementsAt <|> some offset }
  else return none

/-- The clauses at the head of a class or of an interface. -/
def heritage : Parser Heritage := grow (heritageStep g) ⟨none, none⟩

/-- The base of a class, which must be the only one. -/
def onlyBase (h : Heritage) : Parser (Option Expr) := do
  match h.bases.getD [] with
  | [] => return none
  | [base] => return some base.value
  | base :: second :: _ =>
    note .secondBase second.offset
    return some base.value

/-- A class at its word `class`. -/
def classFrom (decorators : List Expr) : Parser Expr := do
  expectWord "class"
  let name ←
    if (← kind).isName && !(← atWord "implements") then some <$> bindingName else pure none
  if ← typed then typeParameters g
  let base ← onlyBase (← heritage g)
  return .classOf name base decorators (← classBody g)

end LivePreview.Script.Parser
