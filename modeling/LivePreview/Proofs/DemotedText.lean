import LivePreview.Example.Source
import LivePreview.Proofs.RawText
import Mathlib.Data.List.Infix
import Mathlib.Data.List.TakeDrop
/-!
# The text of a demoted example

Where the patterns that look for an export match, and what is left of a source when its default
export is demoted. The name of the alias comes into a source with the demotion only
(`not_infix_alias`).
-/
namespace LivePreview.Example

variable {s r n front rest : List Char} {words : List String}

/-! ## Where a pattern matches -/

/-- Blanks, of which there must be some. -/
def IsGap (w : List Char) : Prop := w ≠ [] ∧ w.all Text.isBlank = true

theorem dropWhile_blank (s : List Char) :
    ∃ w, w.all Text.isBlank = true ∧ s = w ++ s.dropWhile Text.isBlank :=
  ⟨s.takeWhile Text.isBlank, by simp, List.takeWhile_append_dropWhile.symm⟩

theorem eq_append_of_afterGap? (h : afterGap? s = some r) : ∃ w, IsGap w ∧ s = w ++ r := by
  cases s with
  | nil => simp [afterGap?] at h
  | cons c u =>
    simp only [afterGap?, Option.ite_none_right_eq_some, Option.some.injEq] at h
    obtain ⟨hc, rfl⟩ := h
    obtain ⟨w, hw, hu⟩ := dropWhile_blank u
    exact ⟨c :: w, ⟨by simp, by simp [hc, hw]⟩, by rw [List.cons_append, ← hu]⟩

theorem eq_append_of_afterWords?_cons {w : String} (h : afterWords? (w :: words) s = some r) :
    ∃ gap u, IsGap gap ∧ s = w.toList ++ (gap ++ u) ∧ afterWords? words u = some r := by
  obtain ⟨a, ha, hmore⟩ := Option.bind_eq_some_iff.mp h
  obtain ⟨u, hu, hwords⟩ := Option.bind_eq_some_iff.mp hmore
  obtain ⟨gap, hgap, hau⟩ := eq_append_of_afterGap? hu
  exact ⟨gap, u, hgap, by rw [Text.afterChars?_eq_some.mp ha, hau], hwords⟩

theorem eq_append_of_name? (h : name? s = some (n, r)) : s = n ++ r := by
  cases s with
  | nil => simp [name?] at h
  | cons c u =>
    simp only [name?, Option.ite_none_right_eq_some, Option.some.injEq,
      List.span_eq_takeWhile_dropWhile, Prod.mk.injEq] at h
    rw [← h.2.1, ← h.2.2, List.takeWhile_append_dropWhile]

/-- What a function's pattern matches behind its words. -/
theorem eq_append_of_functionAfter? (h : functionAfter? words s = some (n, r)) :
    ∃ u w, afterWords? words s = some u ∧ w.all Text.isBlank = true ∧ u = n ++ (w ++ '(' :: r) := by
  simp only [functionAfter?, Option.bind_eq_bind, Option.bind_eq_some_iff, Prod.exists] at h
  obtain ⟨n', u', ⟨u, hu, hname⟩, r', hr, heq⟩ := h
  obtain ⟨rfl, rfl⟩ : n' = n ∧ r' = r := by simpa using heq
  obtain ⟨w, hw, hu'⟩ := dropWhile_blank u'
  rw [Text.afterChars?_eq_some.mp hr] at hu'
  exact ⟨u, w, hu, hw, by rw [eq_append_of_name? hname, hu']; rfl⟩

/-- The text that a match of the first pattern is found in. -/
theorem eq_append_of_firstMatch? {find? : List Char → Option (List Char × List Char)}
    (h : firstMatch? find? s = some (front, n, rest)) :
    ∃ u, s = front ++ u ∧ find? u = some (n, rest) := by
  induction s generalizing front with
  | nil =>
    obtain ⟨m, hm, heq⟩ := Option.map_eq_some_iff.mp h
    obtain ⟨rfl, rfl⟩ : [] = front ∧ m = (n, rest) := by simpa using heq
    exact ⟨[], rfl, hm⟩
  | cons c u ih =>
    rw [firstMatch?] at h
    cases hfind : find? (c :: u) with
    | some m =>
      rw [hfind] at h
      obtain ⟨rfl, rfl⟩ : [] = front ∧ m = (n, rest) := by simpa using h
      exact ⟨c :: u, rfl, hfind⟩
    | none =>
      rw [hfind] at h
      obtain ⟨⟨front', m⟩, hm, heq⟩ := Option.map_eq_some_iff.mp h
      obtain ⟨rfl, rfl⟩ : c :: front' = front ∧ m = (n, rest) := by simpa using heq
      obtain ⟨v, rfl, hv⟩ := ih hm
      exact ⟨v, rfl, hv⟩

/-- The parts of a text with a function that is exported under its name. -/
theorem eq_append_of_namedFunction? (h : namedFunction? s = some (n, rest)) :
    ∃ w₁ w₂ w₃, IsGap w₁ ∧ IsGap w₂ ∧ w₃.all Text.isBlank = true ∧
      s = "export".toList ++ (w₁ ++ ("function".toList ++ (w₂ ++ (n ++ (w₃ ++ '(' :: rest))))) := by
  obtain ⟨u, w₃, hu, hw₃, rfl⟩ := eq_append_of_functionAfter? h
  obtain ⟨w₁, u₁, hw₁, rfl, hu₁⟩ := eq_append_of_afterWords?_cons hu
  obtain ⟨w₂, u₂, hw₂, rfl, hu₂⟩ := eq_append_of_afterWords?_cons hu₁
  obtain rfl : u₂ = n ++ (w₃ ++ '(' :: rest) := by simpa [afterWords?] using hu₂
  exact ⟨w₁, w₂, w₃, hw₁, hw₂, hw₃, rfl⟩

/-- The parts of a text with a function that is the default export. -/
theorem eq_append_of_defaultFunction? (h : defaultFunction? s = some (n, rest)) :
    ∃ w₁ w₂ w₃ w₄, s = "export".toList ++ (w₁ ++ ("default".toList ++ (w₂ ++ ("function".toList ++
      (w₃ ++ (n ++ (w₄ ++ '(' :: rest))))))) := by
  obtain ⟨u, w₄, hu, -, rfl⟩ := eq_append_of_functionAfter? h
  obtain ⟨w₁, u₁, -, rfl, hu₁⟩ := eq_append_of_afterWords?_cons hu
  obtain ⟨w₂, u₂, -, rfl, hu₂⟩ := eq_append_of_afterWords?_cons hu₁
  obtain ⟨w₃, u₃, -, rfl, hu₃⟩ := eq_append_of_afterWords?_cons hu₂
  obtain rfl : u₃ = n ++ (w₄ ++ '(' :: rest) := by simpa [afterWords?] using hu₃
  exact ⟨w₁, w₂, w₃, w₄, rfl⟩

/-! ## The alias -/

/-- A piece of a text stands on one side of any cut, or the cut goes through it. -/
theorem infix_append_cases {p a b : List Char} (h : p <:+: a ++ b) :
    p <:+: a ∨ p <:+: b ∨ ∃ y, y ≠ [] ∧ y <:+ p ∧ y <+: b := by
  obtain ⟨u, v, h⟩ := h
  obtain ⟨a', rfl, rfl⟩ | ⟨y, hy, rfl⟩ := List.append_eq_append_iff.mp h
  · exact .inl ⟨u, a', rfl⟩
  · obtain ⟨x, rfl, rfl⟩ | ⟨z, rfl, rfl⟩ := List.append_eq_append_iff.mp hy
    · cases y with
      | nil => exact .inl ⟨u, [], by simp⟩
      | cons c y => exact .inr (.inr ⟨c :: y, by simp, ⟨x, rfl⟩, ⟨v, rfl⟩⟩)
    · exact .inr (.inl ⟨z, v, by simp⟩)

/-- The alias does not come about at the word that a demoted function starts with. -/
theorem not_infix_function (h : ¬ defaultAlias.toList <:+: s) :
    ¬ defaultAlias.toList <:+: s ++ "function".toList := by
  have hcut : defaultAlias.toList.tails.all
      (fun y => y.isEmpty || !y.isPrefixOf "function".toList) = true := by decide
  intro hin
  obtain hs | hword | ⟨y, hy, hsuffix, hprefix⟩ := infix_append_cases hin
  · exact h hs
  · exact absurd hword.length_le (by decide)
  · have hnot := List.all_eq_true.mp hcut y ((List.mem_tails y _).mpr hsuffix)
    rw [List.isPrefixOf_iff_prefix.mpr hprefix] at hnot
    simp [hy] at hnot

/-- What is left of a source whose default export is a function. -/
theorem replaceFirst_defaultFunction (h : firstMatch? defaultFunction? s = some (front, n, rest)) :
    replaceFirst defaultFunction? "function " "(" s =
      front ++ ("function".toList ++ ' ' :: (n ++ '(' :: rest)) := by
  simp [replaceFirst, h]

/-- The alias comes into a source only where it is given to a default export. -/
theorem not_infix_alias (hfree : ¬ defaultAlias.toList <:+: s) :
    ¬ defaultAlias.toList <:+: replaceFirst defaultFunction? "function " "(" s := by
  cases hfirst : firstMatch? defaultFunction? s with
  | none => simpa [replaceFirst, hfirst] using hfree
  | some m =>
    obtain ⟨front, n, rest⟩ := m
    rw [replaceFirst_defaultFunction hfirst]
    obtain ⟨u, rfl, hu⟩ := eq_append_of_firstMatch? hfirst
    obtain ⟨w₁, w₂, w₃, w₄, rfl⟩ := eq_append_of_defaultFunction? hu
    have hne : defaultAlias.toList ≠ [] := by decide
    have hblank : ' ' ∉ defaultAlias.toList := by decide
    have hparenthesis : '(' ∉ defaultAlias.toList := by decide
    have hfront : ¬ defaultAlias.toList <:+: front := fun h =>
      hfree (h.trans (List.prefix_append _ _).isInfix)
    have hname : ¬ defaultAlias.toList <:+: n := fun h => hfree (h.trans
      ⟨front ++ "export".toList ++ w₁ ++ "default".toList ++ w₂ ++ "function".toList ++ w₃,
        w₄ ++ '(' :: rest, by simp⟩)
    have hrest : ¬ defaultAlias.toList <:+: rest := fun h => hfree (h.trans
      ⟨front ++ "export".toList ++ w₁ ++ "default".toList ++ w₂ ++ "function".toList ++ w₃ ++ n ++
        w₄ ++ ['('], [], by simp⟩)
    rw [← List.append_assoc, Text.infix_append_cons_iff hne hblank,
      Text.infix_append_cons_iff hne hparenthesis]
    rintro (h | h | h)
    · exact not_infix_function hfront h
    · exact hname h
    · exact hrest h

end LivePreview.Example
