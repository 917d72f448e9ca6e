import LivePreview.Script.Parser.Functions
/-!
# Targets of assignments

Whether an array or an object is a pattern shows only at the equals sign behind it. So what would be
wrong with it as a pattern is kept by its offset while it is read, and counts once it turns out to
be one.
-/

namespace LivePreview.Script

/-- Nothing is wrong. -/
def TargetFaults.none : TargetFaults := ⟨[], Option.none, []⟩

/-- Something stops the parser. -/
def TargetFaults.stopAt (cause : SyntaxError) (offset : Nat) : TargetFaults :=
  ⟨[], some ⟨cause, offset⟩, []⟩

/-- What is wrong with one part, and then with what follows it. -/
def TargetFaults.andThen (f h : TargetFaults) : TargetFaults :=
  if f.stop.isSome then f else ⟨f.notes ++ h.notes, h.stop, f.defaults ++ h.defaults⟩

/-- One more note, in front of the others. -/
def TargetFaults.noting (f : TargetFaults) (cause : SyntaxError) (offset : Nat) : TargetFaults :=
  { f with notes := ⟨cause, offset⟩ :: f.notes }

/-- A part of an array or an object that may turn out to be a pattern. -/
inductive TargetPart where
  /-- A value, with what is wrong with it. -/
  | value (faults : TargetFaults)
  /-- What takes the rest, at the offset of its points. -/
  | rest (offset : Nat) (faults : TargetFaults)

/-- What is wrong with the parts of an array or an object. A rest may only stand last, without a
comma behind it, whose offset is given. -/
def TargetFaults.ofParts (comma : Option Nat) : List TargetPart → TargetFaults
  | [] => none
  | .value f :: parts => f.andThen (ofParts comma parts)
  | [.rest _ f] =>
    match comma with
    | some offset => f.noting .restTrailingComma offset
    | Option.none => f
  | .rest offset _ :: _ => stopAt .spreadNotLast offset

/-! ## Patterns -/

mutual

/-- The pattern that an expression turns out to be. -/
def Expr.toPattern : Expr → Expr
  | .object members => .pattern (Member.toPatterns members)
  | .array elements => .array (Expr.toPatterns elements)
  | .assign op target value =>
    if op = "=" then .initialized target value else .assign op target value
  | .spread e => .spread e.toPattern
  | .commented _ e => e.toPattern
  | e => e

def Expr.toPatterns : List Expr → List Expr
  | [] => []
  | e :: r => e.toPattern :: Expr.toPatterns r

def Member.toPattern : Member → Member
  | .property key value => .property key value.toPattern
  | .spread e => .spread e.toPattern
  | m => m

def Member.toPatterns : List Member → List Member
  | [] => []
  | m :: r => m.toPattern :: Member.toPatterns r

end

/-- Whether an expression is a chain with an optional link. -/
def Expr.isOptionalChain : Expr → Bool
  | .member e _ optional => optional || e.isOptionalChain
  | .privateMember e _ optional => optional || e.isOptionalChain
  | .index e _ optional => optional || e.isOptionalChain
  | .call e _ optional _ => optional || e.isOptionalChain
  | _ => false

namespace Parser

/-- Keeps what is wrong with an expression at an offset as a target. What was kept about its parts
is no longer needed. -/
def keepFaults (offset : Nat) (f : TargetFaults) : Parser Unit :=
  modify fun s =>
    { s with targetFaults := (offset, f) :: s.targetFaults.dropWhile fun kept => offset < kept.1 }

/-- What is wrong with an array, an object or parentheses at an offset as a target. -/
def faultsAt (offset : Nat) : Parser TargetFaults := do
  return (((← get).targetFaults.find? fun kept => kept.1 == offset).map (·.2)).getD .none

/-- What is wrong with an expression at an offset as a target. -/
def faultsOf (e : Expr) (offset : Nat) : Parser TargetFaults := do
  match e with
  | .name _ => return .none
  | .array _ => faultsAt offset
  | .object _ => faultsAt offset
  | .commented _ (.object _) => faultsAt offset
  | .paren _ => faultsAt offset
  | .member _ _ _ =>
    return if e.isOptionalChain then .stopAt .invalidTarget offset else .none
  | .privateMember _ _ _ =>
    return if e.isOptionalChain then .stopAt .invalidTarget offset else .none
  | .index _ _ _ => return if e.isOptionalChain then .stopAt .invalidTarget offset else .none
  | _ => return .stopAt .invalidTarget offset

/-- What is wrong with an expression at an offset as a target that may have a default. -/
def defaultedFaultsOf (e : Expr) (offset : Nat) : Parser TargetFaults := do
  match e with
  | .assign op _ _ =>
    return if op == "=" then .none else TargetFaults.none.noting .defaultOperator offset
  | e => faultsOf e offset

/-- Whether an expression is an array or an object. -/
def isLiteralPattern : Expr → Bool
  | .array _ => true
  | .object _ => true
  | .commented _ (.object _) => true
  | _ => false

/-- Takes an expression at an offset as a target. -/
def asTarget (e : Expr) (offset : Nat) : Parser Expr := do
  let f ← faultsOf e offset
  f.notes.forM fun d => note d.cause d.offset
  match f.stop with
  | some d => fail d.cause d.offset
  | none =>
    if !f.defaults.isEmpty then
      modify fun s =>
        { s with pendingDefaults := s.pendingDefaults.filter (!f.defaults.contains ·) }
    return e.toPattern

/-- Takes an expression at an offset as a target that is no pattern. -/
def asSimpleTarget (e : Expr) (offset : Nat) : Parser Expr := do
  if isLiteralPattern e then fail .invalidTarget offset else asTarget e offset

end Parser

end LivePreview.Script
