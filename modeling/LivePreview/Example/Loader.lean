import LivePreview.Example.Index
import LivePreview.Sequence
/-!
# Fetching the index

Only the fetch that was started last may have an effect. While it runs the index of an earlier one
stays; a failure takes it away.
-/

namespace LivePreview

/-- The state of fetching the index. -/
structure ExampleLoader where
  sequence : RequestSequence
  loading : Bool
  data : Option ExampleIndex
  error : Option String
deriving DecidableEq, Repr

namespace ExampleLoader

def start : ExampleLoader := ⟨RequestSequence.start, false, none, none⟩

/-- Starts a fetch and numbers it. -/
def begin (l : ExampleLoader) : ExampleLoader × Nat :=
  let (sequence, id) := l.sequence.next
  ({ l with sequence := sequence, loading := true, error := none }, id)

/-- Gives up the fetch that is running. -/
def cancel (l : ExampleLoader) : ExampleLoader :=
  { l with sequence := l.sequence.next.1, loading := false }

/-- The index that a fetch brings, or why there is none; the document may come or not. -/
def outcome (body : Except String String) : Except String ExampleIndex :=
  match body with
  | .error message => .error message
  | .ok text => (ExampleIndex.parse text).mapError PreviewError.message

/-- A fetch has ended; this has an effect if it is the one started last. -/
def complete? (l : ExampleLoader) (id : Nat) (body : Except String String) : Option ExampleLoader :=
  if !l.sequence.isLatest id then none
  else
    match outcome body with
    | .ok index => some { l with loading := false, data := some index, error := none }
    | .error message => some { l with loading := false, data := none, error := some message }

end ExampleLoader

end LivePreview
