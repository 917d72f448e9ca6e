import LivePreview.Script.Lowering.State
import LivePreview.Script.Number
/-!
# Enumerations as objects

An enumeration becomes an object that maps names to values, and numbers back to names. Values that
are known beforehand are computed: arithmetic of numbers, texts, and earlier members. A member
without a value is one more than the member before it.
-/

namespace LivePreview.Script

namespace Constant

/-! ## Arithmetic -/

/-- The whole part of the absolute value of a finite double. -/
def wholePart (x : Float) : Nat :=
  let i := Decimal.Interval.ofBits (x.toBits.toNat % Nat.pow 2 63)
  i.value * Decimal.twoTo (i.exponent - 2) / Decimal.twoTo (2 - i.exponent)

/-- The whole part as a signed word of 32 bits. -/
def word (x : Float) : Int :=
  if x.isFinite then
    let n : Int := wholePart x
    (if x < 0.0 then -n else n).bmod (Nat.pow 2 32)
  else 0

/-- The whole part as a word of 32 bits without sign. -/
def bits (x : Float) : Nat := (word x % (Nat.pow 2 32 : Nat)).toNat

/-- The double next to a whole number. -/
def ofInt (i : Int) : Float := if i < 0 then -(Float.ofNat i.natAbs) else Float.ofNat i.natAbs

/-- The signed word with the given bits. -/
def ofBits (n : Nat) : Float := ofInt ((n : Int).bmod (Nat.pow 2 32))

/-- A finite double as a natural number in units of a power of two. -/
def inUnits (x : Float) (unit : Int) : Nat :=
  let i := Decimal.Interval.ofBits (x.toBits.toNat % Nat.pow 2 63)
  i.value * Decimal.twoTo (i.exponent - 2 - unit)

/-- The remainder of a division, with the sign of the dividend. -/
def remainder (x y : Float) : Float :=
  if !x.isFinite || y.isNaN || y == 0.0 then 0.0 / 0.0
  else if y.isInf then x
  else
    let least (v : Float) : Int :=
      (Decimal.Interval.ofBits (v.toBits.toNat % Nat.pow 2 63)).exponent - 2
    let unit := min (least x) (least y)
    let r := inUnits x unit % inUnits y unit
    let v :=
      if 0 ≤ unit then Float.ofScientific (r * Nat.pow 2 unit.toNat) false 0
      else Float.ofScientific (r * Nat.pow 5 (-unit).toNat) true (-unit).toNat
    if x < 0.0 then -v else v

/-- The text of a constant where it is joined with another text. -/
def join : Constant → String
  | number x => Number.usual x
  | text s => s

/-- An operator between two constants. -/
def binary (op : String) (a b : Constant) : Option Constant :=
  match a, b with
  | number x, number y =>
    let some' (v : Float) : Option Constant := some (number v)
    match op with
    | "+" => some' (x + y)
    | "-" => some' (x - y)
    | "*" => some' (x * y)
    | "/" => some' (x / y)
    | "%" => some' (remainder x y)
    | "**" => some' (x.pow y)
    | "|" => some' (ofBits (bits x ||| bits y))
    | "&" => some' (ofBits (bits x &&& bits y))
    | "^" => some' (ofBits (bits x ^^^ bits y))
    | "<<" => some' (ofBits (bits x * Nat.pow 2 (bits y % 32)))
    | ">>" => some' (ofInt (word x / (Nat.pow 2 (bits y % 32) : Nat)))
    | ">>>" => some' (Float.ofNat (bits x / Nat.pow 2 (bits y % 32)))
    | _ => none
  | a, b => if op = "+" then some (text (a.join ++ b.join)) else none

/-- An operator in front of a constant. -/
def unary (op : String) (a : Constant) : Option Constant :=
  match a with
  | number x =>
    match op with
    | "+" => some (number x)
    | "-" => some (number (-x))
    | "~" => some (number (ofInt (-(word x) - 1)))
    | _ => none
  | text s =>
    match op with
    | "-" => some (number (0.0 / 0.0))
    | "~" => some (number (-1.0))
    | _ => some (text s)

/-- The expression for a constant. -/
def toExpr : Constant → Expr
  | text s => .string s
  | number x =>
    let e : Expr :=
      if x.isNaN then .name "NaN"
      else if x.isInf then .name "Infinity"
      else .number (Number.usual x.abs)
    if x < 0.0 then .unary "-" e else e

/-- The constant of a number literal. -/
def ofSpelling (spelling : String) : Constant :=
  number (Number.toFloat (Number.exact spelling.toList))

/-- The value of a member of an enumeration known by its name. -/
def lookup (known : List (String × Constants)) (enumeration name : String) : Option Constant := do
  let (_, members) ← known.find? fun e => e.1 = enumeration
  let (_, value) ← members.find? fun e => e.1 = name
  value

mutual

/-- The constant that an expression is, if it is known beforehand; `own` are the earlier members of
the same enumeration. -/
def eval? (known : List (String × Constants)) (own : Constants) : Expr → Option Constant
  | .name n =>
    if n = "Infinity" then some (number (1.0 / 0.0))
    else if n = "NaN" then some (number (0.0 / 0.0))
    else (own.find? fun e => e.1 = n).bind (·.2)
  | .member (.name e) n _ => lookup known e n
  | .index (.name e) (.string n) _ => lookup known e n
  | .number spelling => some (ofSpelling spelling)
  | .string s => some (text s)
  | .template (chunk :: chunks) parts =>
    (evalParts? known own parts).map fun values =>
      text (chunk ++ String.join (List.zipWith (· ++ ·) values chunks))
  | .paren e => eval? known own e
  | .binary op left right => do
    let a ← eval? known own left
    let b ← eval? known own right
    binary op a b
  | .unary op e => (eval? known own e).bind (unary op)
  | _ => none

def evalParts? (known : List (String × Constants)) (own : Constants) :
    List Expr → Option (List String)
  | [] => some []
  | e :: r => do
    let c ← eval? known own e
    return c.join :: (← evalParts? known own r)

end

end Constant

namespace Lowering

/-- A member of an enumeration: its comments, its name and its value. -/
structure EnumMember where
  comments : List Comment
  name : String
  value : Option Expr

/-- The members of an enumeration by their names. -/
def enumMember (comments : List Comment) : Member → Option EnumMember
  | .commented cs x => enumMember (comments ++ cs) x
  | .field _ _ _ (.name n) value => some ⟨comments, n, value⟩
  | .field _ _ _ (.string n) value => some ⟨comments, n, value⟩
  | _ => none

/-- Earlier members are members of the object in values that are computed later, except where other
variables have their names. -/
def qualify (enumeration : String) (own : Constants) (e : Expr) : Expr :=
  let isMember (bound : List String) (n : String) : Bool :=
    own.any (fun c => c.1 = n) && !bound.contains n
  let reference (n : String) : Expr := .member (.name enumeration) n false
  let b : Rebuild (ReaderM (List String)) :=
    { Rebuild.keep with
      expr := fun e => do
        let bound ← read
        return match e with
          | .name n => if isMember bound n then reference n else e
          | e => e
      member := fun x => do
        let bound ← read
        return match x with
          | .shorthand n => if isMember bound n then .property (.name n) (reference n) else x
          | x => x
      binding := fun _ names x => withReader (names ++ ·) x }
  (b.onExpr e).run []

/-- The state between two members: the members so far, the constant before, and the name before. -/
structure EnumState where
  own : Constants
  previous : Option Constant
  previousName : Option String

/-- The value of the next member, and the state behind it. -/
def enumValue (known : List (String × Constants)) (enumeration : String) (s : EnumState)
    (m : EnumMember) : Expr × EnumState :=
  let next (value : Option Constant) : EnumState :=
    ⟨(m.name, value) :: s.own, value, some m.name⟩
  match m.value with
  | some e =>
    match Constant.eval? known s.own e with
    | some c => (c.toExpr, next (some c))
    | none => (qualify enumeration ((m.name, none) :: s.own) e, next none)
  | none =>
    match s.previous, s.previousName with
    | some (.number x), _ => ((Constant.number (x + 1.0)).toExpr, next (some (.number (x + 1.0))))
    | some (.text _), _ => (.number "0", next none)
    | none, some before =>
      (.binary "+" (.number "1") (.index (.name enumeration) (.string before) false), next none)
    | none, none => (.number "0", next (some (.number 0.0)))

/-- The statement that sets a member. -/
def enumStatement (enumeration : String) (m : EnumMember) (value : Expr) : Stmt :=
  let entry (key : Expr) : Expr := .index (.name enumeration) key false
  let set : Expr := .assign "=" (entry (.string m.name)) value
  let s : Stmt :=
    .expression
      (match value with
       | .string _ => set
       | _ => .assign "=" (entry set) (.string m.name))
  if m.comments.isEmpty then s else .commented m.comments s

/-- The statements that set the members, and the members with their constants. -/
def enumStatements (known : List (String × Constants)) (enumeration : String) :
    EnumState → List EnumMember → List Stmt × Constants
  | s, [] => ([], s.own)
  | s, m :: r =>
    let (value, s) := enumValue known enumeration s m
    let (rest, own) := enumStatements known enumeration s r
    (enumStatement enumeration m value :: rest, own)

/-- Whether computing the members may have an effect. -/
def hasEffects (members : List EnumMember) : Bool :=
  members.any fun m =>
    match m.value with
    | some (.call ..) => true
    | some (.new ..) => true
    | _ => false

/-- The statement for an enumeration. At the module's own level it adds to what has the name
already; elsewhere, and where it is exported, the object is new unless the name is declared
already. -/
def enumeration (isModule isExported isDeclared : Bool) (name : String) (members : List Member) :
    Lower Stmt := do
  let members := members.filterMap (enumMember [])
  let known := (← get).enumerations
  let earlier := ((known.find? fun e => e.1 = name).map (·.2)).getD []
  let (body, own) := enumStatements known name ⟨earlier, some (.number (-1.0)), none⟩ members
  modify fun s => { s with enumerations := (name, own) :: s.enumerations }
  let fn : Expr :=
    .function none false false [.name name] (body ++ [.returnStmt (some (.name name))])
  let isNew := (isExported || !isModule) && !isDeclared
  let argument : Expr := if isNew then .object [] else .binary "||" (.name name) (.object [])
  let object : Expr := .call fn [argument] false (!hasEffects members)
  if isDeclared then return .expression (.assign "=" (.name name) object)
  else
    let s : Stmt :=
      .declaration (if isExported || !isModule then .block else .var)
        [.initialized (.name name) object]
    return if isExported then .exportDecl s else s

end Lowering

end LivePreview.Script
