import LivePreview.Script.Lowering.State
import LivePreview.Text.Blank
/-!
# Comments that choose how markup is lowered

A comment may say `@jsxRuntime` with the word `classic`, `@jsx` and `@jsxFrag` with what makes
elements and fragments, or `@jsxImportSource` with the source of the functions. The last word of
each kind counts, and not all of them go together.
-/

namespace LivePreview.Script

/-- What the comments of a source say about markup. -/
structure Pragmas where
  isClassic : Bool
  element : Option String
  fragment : Option String
  source : Option String

namespace Pragmas

/-- What is in force without any comment. -/
def usual : Pragmas := ⟨false, none, none, none⟩

/-- Whether a keyword ends in front of a character. -/
def endsKeyword (c : Char) : Bool := c == ' ' || c == '\t'

/-- Whether the word behind a keyword ends in front of a character. -/
def endsValue (c : Char) : Bool := endsKeyword c || c == '\n' || c == '\r' || c.toNat == 12

/-- Takes up a keyword, without its first letters, and the word behind it; nothing if there is no
such keyword. -/
def set? (p : Pragmas) (keyword value : List Char) : Option Pragmas :=
  let text := String.ofList value
  match String.ofList keyword with
  | "" => some { p with element := some text }
  | "Frag" => some { p with fragment := some text }
  | "ImportSource" => some { p with source := some text }
  | "Runtime" =>
    some (if text == "classic" then { p with isClassic := true }
      else if text == "automatic" then { p with isClassic := false }
      else p)
  | _ => none

/-- Takes up what a comment says, which is less than `fuel` characters long. -/
def ofBody : Nat → Pragmas → List Char → Pragmas
  | 0, p, _ => p
  | _ + 1, p, [] => p
  | fuel + 1, p, '@' :: 'j' :: 's' :: 'x' :: r =>
    let (keyword, behind) := r.span (!endsKeyword ·)
    let (value, rest) := (behind.dropWhile endsKeyword).span (!endsValue ·)
    if behind.isEmpty then p
    else
      match p.set? keyword value with
      | some p' => if value.isEmpty then p else ofBody fuel p' rest
      | none => ofBody fuel p r
  | fuel + 1, p, _ :: r => ofBody fuel p r

/-- What comments say, of which the last one stands first. -/
def ofComments (bodies : List (List Char)) : Pragmas :=
  bodies.foldr (fun body p => ofBody (body.length + 1) p body) usual

/-- The expression that a pragma names: words joined by points. -/
def reference (name : String) : Expr :=
  match Text.splitWhen (· == '.') name.toList with
  | [] => .name name
  | first :: more =>
    let object : Expr := if first = "this".toList then .thisRef else .name (String.ofList first)
    more.foldl (fun e n => .member e (String.ofList n) false) object

/-- What markup becomes. -/
def style (p : Pragmas) : MarkupStyle :=
  if p.isClassic then
    .classic (reference (p.element.getD "React.createElement"))
      (reference (p.fragment.getD "React.Fragment"))
  else .automatic (p.source.getD "react")

/-- What is wrong with the comments. -/
def fault? (p : Pragmas) : Option SyntaxError :=
  if p.isClassic then if p.source.isSome then some .sourceWithPragma else none
  else if p.element.isSome || p.fragment.isSome then some .pragmaWithRuntime
  else none

/-- The variables that markup uses by convention: those with which the names of elements and
fragments start. -/
def variableNames (p : Pragmas) : List String :=
  let first (n : String) : String := String.ofList (n.toList.takeWhile (· != '.'))
  [first (p.element.getD "React"), first (p.fragment.getD "React")]

end Pragmas

end LivePreview.Script
