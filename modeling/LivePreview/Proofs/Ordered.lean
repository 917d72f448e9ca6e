import LivePreview.Text.Order
/-!
# The ordered list of a set

An ordered list holds the members of a set, each once, so it is the same for all lists with these
members (`ordered_congr`). Ordering twice is ordering once, and a set may be ordered in parts.
-/
namespace LivePreview.Text

variable {s : String} {a b ss : List String}

theorem insertOrdered_pairwise (h : ss.Pairwise (· < ·)) :
    (insertOrdered s ss).Pairwise (· < ·) := by
  induction ss with
  | nil => simp [insertOrdered]
  | cons t r ih =>
    obtain ⟨ht, hr⟩ := List.pairwise_cons.mp h
    unfold insertOrdered
    split
    · rename_i hlt
      refine List.pairwise_cons.mpr ⟨?_, h⟩
      intro u hu
      rcases List.mem_cons.mp hu with rfl | hu
      · exact hlt
      · exact String.lt_trans hlt (ht u hu)
    · split
      · exact h
      · rename_i hlt hne
        refine List.pairwise_cons.mpr ⟨?_, ih hr⟩
        intro u hu
        rcases mem_insertOrdered.mp hu with rfl | hu
        · exact String.not_le.mp fun hle => hne (String.le_antisymm hle (String.not_lt.mp hlt))
        · exact ht u hu

theorem ordered_pairwise (ss : List String) : (ordered ss).Pairwise (· < ·) := by
  induction ss with
  | nil => exact List.Pairwise.nil
  | cons s r ih => exact insertOrdered_pairwise ih

/-- Two ordered lists with the same members are the same. -/
theorem eq_of_pairwise (ha : a.Pairwise (· < ·)) (hb : b.Pairwise (· < ·))
    (h : ∀ s, s ∈ a ↔ s ∈ b) : a = b := by
  induction a generalizing b with
  | nil =>
    cases b with
    | nil => rfl
    | cons t b => simpa using h t
  | cons s a ih =>
    cases b with
    | nil => simpa using h s
    | cons t b =>
      obtain ⟨hs, hra⟩ := List.pairwise_cons.mp ha
      obtain ⟨ht, hrb⟩ := List.pairwise_cons.mp hb
      -- each head is the least member
      have heads : s = t := by
        rcases List.mem_cons.mp ((h s).mp (by simp)) with hst | hsb
        · exact hst
        · rcases List.mem_cons.mp ((h t).mpr (by simp)) with hts | hta
          · exact hts.symm
          · exact absurd (hs t hta) (String.lt_asymm (ht s hsb))
      subst heads
      refine congrArg (s :: ·) (ih hra hrb fun u => ?_)
      constructor
      · intro hu
        rcases List.mem_cons.mp ((h u).mp (List.mem_cons_of_mem _ hu)) with rfl | hub
        · exact absurd (hs u hu) (String.lt_irrefl u)
        · exact hub
      · intro hu
        rcases List.mem_cons.mp ((h u).mpr (List.mem_cons_of_mem _ hu)) with rfl | hua
        · exact absurd (ht u hu) (String.lt_irrefl u)
        · exact hua

/-- **The ordered list of a set.** Lists with the same members are ordered alike. -/
theorem ordered_congr (h : ∀ s, s ∈ a ↔ s ∈ b) : ordered a = ordered b :=
  eq_of_pairwise (ordered_pairwise a) (ordered_pairwise b) fun s => by
    rw [mem_ordered, mem_ordered, h s]

theorem ordered_ordered (ss : List String) : ordered (ordered ss) = ordered ss :=
  ordered_congr fun _ => mem_ordered

theorem ordered_ordered_append (a b : List String) :
    ordered (ordered a ++ b) = ordered (a ++ b) :=
  ordered_congr fun s => by simp [mem_ordered]

theorem ordered_eq_nil_iff : ordered ss = [] ↔ ss = [] := by
  simp only [List.eq_nil_iff_forall_not_mem, mem_ordered]

end LivePreview.Text
