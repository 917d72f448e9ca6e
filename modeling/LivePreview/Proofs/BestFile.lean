import LivePreview.Proofs.PreparedItem
/-!
# The best file of an item

Of the files that can be shown the one with the highest score is opened, and of several such files
the first (`FirstBest`). There is at most one place of a list where such a file stands, and taking
another file away leaves it the first best one. So the choice does not hang on the files that lose
(`first_best_file_chosen`).
-/
namespace LivePreview.Registry.File

variable {files before after before' after' : List File} {f g : File} {best : Option File}

/-! ## Files that can be shown -/

/-- A script whose content is not blank. -/
structure CanBeShown (f : File) : Prop where
  content : ∃ content, f.content = some content ∧ ∃ c ∈ content.toList, Text.isBlank c = false
  path : ∃ stem, ∃ extension ∈ [".tsx", ".ts", ".jsx", ".js"], f.path = stem ++ extension

theorem isScript_iff {path : String} : isScript path = true ↔
    ∃ stem, ∃ extension ∈ [".tsx", ".ts", ".jsx", ".js"], path = stem ++ extension := by
  rw [isScript, List.any_eq_true]
  constructor
  · rintro ⟨extension, hmem, hends⟩
    obtain ⟨stem, hpath⟩ := Text.endsWith_eq_true.mp hends
    exact ⟨stem, extension, hmem, hpath⟩
  · rintro ⟨stem, extension, hmem, hpath⟩
    exact ⟨extension, hmem, Text.endsWith_eq_true.mpr ⟨stem, hpath⟩⟩

theorem isPlayable_iff : f.isPlayable = true ↔ CanBeShown f := by
  rw [isPlayable, Bool.and_eq_true, isScript_iff]
  constructor
  · rintro ⟨hcontent, hpath⟩
    cases hsome : f.content with
    | none => simp [hsome] at hcontent
    | some content => exact ⟨⟨content, hsome, by simpa [hsome, Text.blank] using hcontent⟩, hpath⟩
  · rintro ⟨⟨content, hsome, hblank⟩, hpath⟩
    refine ⟨?_, hpath⟩
    rw [hsome]
    simpa [Text.blank] using hblank

/-! ## The first of the best files -/

/-- A file that can be shown is better than those in front of it, and no worse than those behind. -/
structure FirstBest (before : List File) (f : File) (after : List File) : Prop where
  shown : CanBeShown f
  front : ∀ g ∈ before, CanBeShown g → g.score < f.score
  behind : ∀ g ∈ after, CanBeShown g → g.score ≤ f.score

theorem FirstBest.subset (h : FirstBest before f after) (hfront : before' ⊆ before)
    (hbehind : after' ⊆ after) : FirstBest before' f after' :=
  ⟨h.shown, fun g hg => h.front g (hfront hg), fun g hg => h.behind g (hbehind hg)⟩

/-- Files that are no better do not take the place of one that was chosen. -/
theorem foldl_better_of_le (h : ∀ g ∈ files, g.score ≤ f.score) :
    files.foldl better (some f) = some f := by
  induction files with
  | nil => rfl
  | cons g files ih =>
    have hkept : better (some f) g = some f := if_pos (h g List.mem_cons_self)
    rw [List.foldl_cons, hkept]
    exact ih fun g hg => h g (List.mem_cons_of_mem _ hg)

/-- A file that is better than the one that was chosen takes its place. -/
theorem better_of_lt (h : ∀ g ∈ best, g.score < f.score) : better best f = some f := by
  cases best with
  | none => rfl
  | some g => exact if_neg (Int.not_le.mpr (h g rfl))

theorem select?_of_firstBest (h : FirstBest before f after) :
    select? (before ++ f :: after) = some f := by
  have hfront : ∀ g ∈ (before.filter isPlayable).foldl better none, g.score < f.score := by
    intro g hg
    obtain ⟨hmem, hplayable⟩ := List.mem_filter.mp (chooses_better.of_foldl hg).1
    exact h.front g hmem (isPlayable_iff.mp hplayable)
  have hbehind : ∀ g ∈ after.filter isPlayable, g.score ≤ f.score := by
    intro g hg
    obtain ⟨hmem, hplayable⟩ := List.mem_filter.mp hg
    exact h.behind g hmem (isPlayable_iff.mp hplayable)
  rw [select?, List.filter_append, List.filter_cons_of_pos (isPlayable_iff.mpr h.shown),
    List.foldl_append, List.foldl_cons, better_of_lt hfront, foldl_better_of_le hbehind]

/-- Where a file can be shown, one of them is the first best. -/
theorem exists_firstBest (hf : f ∈ files) (hshown : CanBeShown f) :
    ∃ before g after, files = before ++ g :: after ∧ FirstBest before g after := by
  induction files generalizing f with
  | nil => cases hf
  | cons x files ih =>
    by_cases hrest : ∃ g ∈ files, CanBeShown g
    · obtain ⟨k, hk, hkshown⟩ := hrest
      obtain ⟨before, g, after, rfl, hbest⟩ := ih hk hkshown
      by_cases hx : CanBeShown x ∧ g.score ≤ x.score
      · -- the file in front is no worse than the first best one behind it
        refine ⟨[], x, before ++ g :: after, rfl, hx.1, by simp, ?_⟩
        intro k hk hkshown
        refine Int.le_trans ?_ hx.2
        rcases List.mem_append.mp hk with hk | hk
        · exact Int.le_of_lt (hbest.front k hk hkshown)
        · rcases List.mem_cons.mp hk with rfl | hk
          · exact Int.le_refl _
          · exact hbest.behind k hk hkshown
      · refine ⟨x :: before, g, after, rfl, hbest.shown, ?_, hbest.behind⟩
        intro k hk hkshown
        rcases List.mem_cons.mp hk with rfl | hk
        · exact Int.not_le.mp fun hle => hx ⟨hkshown, hle⟩
        · exact hbest.front k hk hkshown
    · -- no file behind the first can be shown
      have hx : CanBeShown x := by
        rcases List.mem_cons.mp hf with rfl | hf
        · exact hshown
        · exact absurd ⟨f, hf, hshown⟩ hrest
      exact ⟨[], x, files, rfl, hx, by simp, fun g hg hgshown => absurd ⟨g, hg, hgshown⟩ hrest⟩

theorem exists_firstBest_of_select? (h : select? files = some f) :
    ∃ before after, files = before ++ f :: after ∧ FirstBest before f after := by
  obtain ⟨hmem, hplayable⟩ := isPlayable_of_select? h
  obtain ⟨before, g, after, rfl, hbest⟩ := exists_firstBest hmem (isPlayable_iff.mp hplayable)
  obtain rfl : g = f := by simpa [select?_of_firstBest hbest] using h
  exact ⟨before, after, rfl, hbest⟩

/-- Taking another file away does not change the choice. -/
theorem select?_eraseIdx (h : FirstBest before f after) {i : Nat} (hi : i ≠ before.length) :
    select? ((before ++ f :: after).eraseIdx i) = some f := by
  rcases Nat.lt_or_gt_of_ne hi with hfront | hbehind
  · rw [List.eraseIdx_append_of_lt_length hfront]
    exact select?_of_firstBest (h.subset List.eraseIdx_subset (List.Subset.refl _))
  · obtain ⟨k, rfl⟩ := Nat.exists_eq_add_of_lt hbehind
    have hplace : before.length + k + 1 - before.length = k + 1 := by omega
    rw [List.eraseIdx_append_of_length_le (by omega), hplace, List.eraseIdx_cons_succ]
    exact select?_of_firstBest (h.subset (List.Subset.refl _) List.eraseIdx_subset)

/-- **The file that is opened is the first of the best.** None is if and only if no file can be
shown. Otherwise it is a file that can be shown, whose score is higher than that of each such file
in front of it and at least that of each behind it, and it is still chosen when a file at any other
place of the list is taken away. -/
theorem first_best_file_chosen (files : List File) :
    (select? files = none ↔ ∀ f ∈ files, ¬ CanBeShown f) ∧
      ∀ f, select? files = some f →
        CanBeShown f ∧ ∃ before after, files = before ++ f :: after ∧
          (∀ g ∈ files, CanBeShown g → g.score ≤ f.score) ∧
          (∀ g ∈ before, CanBeShown g → g.score < f.score) ∧
          ∀ i, i ≠ before.length → select? (files.eraseIdx i) = some f := by
  constructor
  · rw [select?_eq_none]
    simp only [← isPlayable_iff, Bool.not_eq_true]
  · intro f hf
    obtain ⟨before, after, rfl, hbest⟩ := exists_firstBest_of_select? hf
    refine ⟨hbest.shown, before, after, rfl, ?_, hbest.front, fun i => select?_eraseIdx hbest⟩
    intro g hg hshown
    rcases List.mem_append.mp hg with hg | hg
    · exact Int.le_of_lt (hbest.front g hg hshown)
    · rcases List.mem_cons.mp hg with rfl | hg
      · exact Int.le_refl _
      · exact hbest.behind g hg hshown

end LivePreview.Registry.File
