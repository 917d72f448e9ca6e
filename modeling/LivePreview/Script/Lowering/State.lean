import LivePreview.Script.Rebuild
import LivePreview.Script.SyntaxError
import LivePreview.Text.Letters
import LivePreview.Decimal.Shortest
/-!
# What lowering keeps track of

Lowering a module invents names, imports the functions that markup is turned into, and collects what
is wrong. New names start with an underscore and differ from all names of the module.
-/

namespace LivePreview.Script

/-- The value of a member of an enumeration. -/
inductive Constant where
  | number (x : Float)
  | text (s : String)

/-- The members of an enumeration so far; a member without a constant value has none. -/
abbrev Constants := List (String × Option Constant)

/-- What elements and fragments become. -/
inductive MarkupStyle where
  /-- Calls of functions that are imported from a source and from below it. -/
  | automatic (source : String)
  /-- Calls of a function that is in scope, with its mark for fragments. -/
  | classic (element fragment : Expr)

/-- The state of lowering. -/
structure Lowering where
  /-- The names of the module, and those invented since. -/
  taken : List String
  style : MarkupStyle
  /-- The sources that markup needs, with the names imported and their local names, in the order in
  which they were first needed. -/
  runtime : List (String × List (String × String))
  /-- What is wrong, first things first. -/
  diagnostics : List Diagnostic
  /-- The members of the enumerations so far. -/
  enumerations : List (String × Constants)
  sawMarkup : Bool

/-- A step of lowering. -/
abbrev Lower (α : Type) := StateM Lowering α

namespace Lowering

/-- Before lowering a module with the given names. -/
def initial (names : List String) (style : MarkupStyle) : Lowering :=
  ⟨names, style, [], [], [], false⟩

/-- The parts of a name: how many underscores it starts with, its stem, and the number at its end,
which is one if there is none. -/
def nameParts (n : String) : Nat × List Char × Nat :=
  let s := n.toList
  let stem := s.dropWhile (· == '_')
  let digits := (stem.reverse.takeWhile Text.isAsciiDigit).reverse
  (s.length - stem.length, stem.take (stem.length - digits.length),
    if digits = [] then 1 else Decimal.ofDigits digits)

/-- A new name with the given stem: one underscore if no name with an underscore has that stem, and
otherwise the next number behind the greatest such name. -/
def newName (taken : List String) (base : String) : String :=
  let stem := (nameParts base).2.1
  let used := (taken.map nameParts).filter fun p => p.2.1 = stem && 0 < p.1
  let stem := String.ofList stem
  if used.isEmpty then "_" ++ stem
  else
    let underscores := used.foldl (fun n p => max n p.1) 0
    let number := used.foldl (fun n p => if p.1 = underscores then max n p.2.2 else n) 0
    String.ofList (List.replicate underscores '_') ++ stem ++ toString (number + 1)

/-- Invents a name. -/
def fresh (base : String) : Lower String := do
  let n := newName (← get).taken base
  modify fun s => { s with taken := n :: s.taken }
  return n

/-- Reports what is wrong. -/
def report (cause : SyntaxError) (offset : Nat) : Lower Unit :=
  modify fun s => { s with diagnostics := s.diagnostics ++ [⟨cause, offset⟩] }

/-- Adds a name to what is imported from a source. -/
def addImport (source : String) (name : String × String) :
    List (String × List (String × String)) → List (String × List (String × String))
  | [] => [(source, [name])]
  | (s, names) :: r =>
    if s = source then (s, names ++ [name]) :: r else (s, names) :: addImport source name r

/-- The local name of what is exported by a source under a name; it is imported if it was not
yet. -/
def runtimeName (source name : String) : Lower String := do
  let known := ((← get).runtime.filter fun e => e.1 = source).flatMap (·.2)
  match known.find? fun e => e.1 = name with
  | some e => return e.2
  | none =>
    let n ← fresh name
    modify fun s => { s with runtime := addImport source (name, n) s.runtime }
    return n

end Lowering

end LivePreview.Script
