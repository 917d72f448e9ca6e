/-!
# Ordered texts

Texts are ordered by their characters. A set of texts is kept as the ordered list of its members.
-/

namespace LivePreview.Text

/-- Adds a member to an ordered list, unless it is there. -/
def insertOrdered (s : String) : List String → List String
  | [] => [s]
  | t :: r => if s < t then s :: t :: r else if s = t then t :: r else t :: insertOrdered s r

/-- The members of a list, each once and in order. -/
def ordered (ss : List String) : List String := ss.foldr insertOrdered []

theorem mem_insertOrdered {s t : String} {ss : List String} :
    t ∈ insertOrdered s ss ↔ t = s ∨ t ∈ ss := by
  induction ss with
  | nil => simp [insertOrdered]
  | cons u r ih =>
    unfold insertOrdered
    split
    · simp
    · split
      · rename_i h
        subst h
        simp
      · simp only [List.mem_cons, ih]
        constructor <;> rintro (h | h | h) <;> simp [h]

/-- Ordering loses no member and adds none. -/
theorem mem_ordered {t : String} {ss : List String} : t ∈ ordered ss ↔ t ∈ ss := by
  induction ss with
  | nil => simp [ordered]
  | cons s r ih =>
    have : ordered (s :: r) = insertOrdered s (ordered r) := rfl
    rw [this, mem_insertOrdered, ih, List.mem_cons]

end LivePreview.Text
