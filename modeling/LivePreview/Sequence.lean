/-!
# Numbered requests

Responses may come back in any order. Requests are numbered from one on, and there are two ways to
decide whether a response still counts: it belongs to the request made last, or it is newer than
every response that was applied before.
-/

namespace LivePreview

/-- The number of the request made last, and the highest number applied. -/
structure RequestSequence where
  issued : Nat
  applied : Nat
deriving DecidableEq, Repr

namespace RequestSequence

/-- Before the first request. -/
def start : RequestSequence := ⟨0, 0⟩

/-- The number of the next request. -/
def next (s : RequestSequence) : RequestSequence × Nat :=
  ({ s with issued := s.issued + 1 }, s.issued + 1)

/-- Whether a response belongs to the request made last. -/
def isLatest (s : RequestSequence) (id : Nat) : Bool := id ≠ 0 && id == s.issued

/-- Applies a response to a request that was made, if it is newer than what was applied before. -/
def accept? (s : RequestSequence) (id : Nat) : Option RequestSequence :=
  if id = 0 ∨ s.issued < id ∨ id ≤ s.applied then none else some { s with applied := id }

/-- What is applied was asked for, and is newer than what was applied before. -/
theorem accept?_eq_some {s t : RequestSequence} {id : Nat} (h : s.accept? id = some t) :
    s.applied < id ∧ id ≤ s.issued ∧ t = ⟨s.issued, id⟩ := by
  unfold accept? at h
  split at h
  · simp at h
  · simp only [Option.some.injEq] at h
    subst h
    refine ⟨?_, ?_, rfl⟩ <;> omega

end RequestSequence

end LivePreview
