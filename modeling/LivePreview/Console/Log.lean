import LivePreview.Message.Report
/-!
# The console log

The host keeps the newest entries of the console, at least one. Entries are numbered from one on; a
number is never used twice, not even after the log was cleared.
-/

namespace LivePreview

/-- An entry of the console. -/
structure ConsoleEntry where
  id : Nat
  method : ConsoleMethod
  args : List String
deriving DecidableEq, Repr

namespace ConsoleEntry

def toJson (e : ConsoleEntry) : Json :=
  .obj [("id", .ofNat e.id), ("method", .str e.method.name), ("args", .ofStrings e.args)]

end ConsoleEntry

/-- The newest entries, from the oldest on. -/
structure ConsoleLog where
  entries : List ConsoleEntry
  capacity : Nat
  nextId : Nat
deriving DecidableEq, Repr

namespace ConsoleLog

/-- The log without entries; it has room for at least one. -/
def empty (capacity : Nat) : ConsoleLog := ⟨[], max capacity 1, 1⟩

/-- Adds an entry; a full log loses its oldest one. -/
def push (l : ConsoleLog) (method : ConsoleMethod) (args : List String) : ConsoleLog :=
  let kept := if l.entries.length = l.capacity then l.entries.drop 1 else l.entries
  { l with entries := kept ++ [⟨l.nextId, method, args⟩], nextId := l.nextId + 1 }

/-- Drops all entries. -/
def clear (l : ConsoleLog) : ConsoleLog := { l with entries := [] }

end ConsoleLog

end LivePreview
