import LivePreview.Proofs.BuiltIndex
/-!
# What the name of a file says

The name of a file says to which component its example belongs and which variant of it the example
shows (`Says`): behind the misspelled front of the date picker stands the variant, and any other
name is that of a component or starts with it and a dash, where the longest component counts. A name
says at most one component and one variant of it (`Says.unique`), and it is that component under
which a file is listed (`componentOf?_eq_some`).

A file is passed over if its name or its code has the word for scripts that run from right to left
(`skips_iff`): the pieces of a text that is cut at some characters are the words that stand between
two of them (`Text.mem_splitWhen_iff`).
-/
namespace LivePreview

/-! ## Words of a text -/

namespace Text

variable {p : Char → Bool} {w s : List Char}

/-- A word stands in a text between two places at which the text is cut; it may be cut at its
ends, too. -/
def Stands (p : Char → Bool) (w s : List Char) : Prop :=
  ∃ front back, s = front ++ w ++ back ∧
    (∀ c ∈ front.getLast?, p c = true) ∧ ∀ c ∈ back.head?, p c = true

theorem splitWhen_of_uncut (h : ∀ c ∈ w, p c = false) : splitWhen p w = [w] := by
  induction w with
  | nil => rfl
  | cons c r ih =>
    obtain ⟨hc, hr⟩ := List.forall_mem_cons.mp h
    simp [splitWhen, hc, ih hr]

/-- The first piece stands at the start, and the others behind a cut. -/
theorem splitWhen_stands (p : Char → Bool) (s : List Char) :
    ∃ v vs, splitWhen p s = v :: vs ∧
      (∃ back, s = v ++ back ∧ ∀ c ∈ back.head?, p c = true) ∧
      ∀ w ∈ vs, ∃ front c back, s = front ++ [c] ++ w ++ back ∧ p c = true ∧
        ∀ d ∈ back.head?, p d = true := by
  induction s with
  | nil => exact ⟨[], [], rfl, ⟨[], rfl, by simp⟩, by simp⟩
  | cons c r ih =>
    obtain ⟨v, vs, hsplit, ⟨back, hv, hback⟩, hvs⟩ := ih
    by_cases hc : p c = true
    · refine ⟨[], v :: vs, by simp [splitWhen, hc, hsplit], ⟨c :: r, rfl, by simpa using hc⟩, ?_⟩
      intro w hw
      rcases List.mem_cons.mp hw with rfl | hw
      · exact ⟨[], c, back, by simp [hv], hc, hback⟩
      · obtain ⟨front, d, behind, hr, hd, hbehind⟩ := hvs w hw
        exact ⟨c :: front, d, behind, by simp [hr], hd, hbehind⟩
    · refine ⟨c :: v, vs, by simp [splitWhen, hc, hsplit], ⟨back, by simp [hv], hback⟩, ?_⟩
      intro w hw
      obtain ⟨front, d, behind, hr, hd, hbehind⟩ := hvs w hw
      exact ⟨c :: front, d, behind, by simp [hr], hd, hbehind⟩

theorem Stands.of_mem (h : w ∈ splitWhen p s) : Stands p w s := by
  obtain ⟨v, vs, hsplit, ⟨back, hv, hback⟩, hvs⟩ := splitWhen_stands p s
  rcases List.mem_cons.mp (hsplit ▸ h) with rfl | hw
  · exact ⟨[], back, by simpa using hv, by simp, hback⟩
  · obtain ⟨front, c, behind, hs, hc, hbehind⟩ := hvs w hw
    exact ⟨front ++ [c], behind, hs, by simpa using hc, hbehind⟩

/-- A word without a cut is a piece where it stands at the start. -/
theorem mem_splitWhen_append {back : List Char} (hw : ∀ c ∈ w, p c = false)
    (hback : ∀ c ∈ back.head?, p c = true) : w ∈ splitWhen p (w ++ back) := by
  cases back with
  | nil => simp [splitWhen_of_uncut hw]
  | cons c r => simp [splitWhen_append_cons (hback c rfl), splitWhen_of_uncut hw]

/-- **The pieces of a text** that is cut at some characters are the words without such a character
that stand between two cuts. -/
theorem mem_splitWhen_iff :
    w ∈ splitWhen p s ↔ (∀ c ∈ w, p c = false) ∧ Stands p w s := by
  refine ⟨fun h => ⟨not_of_mem_splitWhen h, .of_mem h⟩, ?_⟩
  rintro ⟨hw, front, back, rfl, hfront, hback⟩
  rcases List.eq_nil_or_concat front with rfl | ⟨rest, c, rfl⟩
  · simpa using mem_splitWhen_append hw hback
  · have hc : p c = true := hfront c (by simp)
    have htext : (rest ++ [c]) ++ w ++ back = rest ++ c :: (w ++ back) := by simp
    rw [List.concat_eq_append, htext, splitWhen_append_cons hc]
    exact List.mem_append_right _ (mem_splitWhen_append hw hback)

end Text

namespace Example

/-! ## Scripts that run from right to left -/

/-- Whether the name of a file, between dashes, or its code has the word for scripts that run from
right to left, in any case. -/
def SaysRightToLeft (f : RawFile) : Prop :=
  ∃ w : List Char, w.map Text.asciiLower = ['r', 't', 'l'] ∧
    (Text.Stands (· == '-') w (baseName f.fileName).toList ∨
      Text.Stands (fun c => !Text.isWord c) w f.code.toList)

theorem isAsciiLetter_of_asciiLower {c : Char} (h : Text.asciiLower c ∈ ['r', 't', 'l']) :
    Text.isAsciiLetter c = true := by
  by_cases hc : 'A' ≤ c ∧ c ≤ 'Z'
  · simp [Text.isAsciiLetter, hc]
  · have hlower : Text.asciiLower c = c := by
      rw [Text.asciiLower, if_neg (by simpa using hc)]
    rw [hlower] at h
    have hletters : ['r', 't', 'l'].all Text.isAsciiLetter = true := by decide
    exact List.all_eq_true.mp hletters c h

/-- The word is not cut within: it has letters only. -/
theorem isAsciiLetter_of_rightToLeft {w : List Char}
    (h : w.map Text.asciiLower = ['r', 't', 'l']) : ∀ c ∈ w, Text.isAsciiLetter c = true :=
  fun _ hc => isAsciiLetter_of_asciiLower (h ▸ List.mem_map_of_mem hc)

theorem any_isRightToLeft_iff {p : Char → Bool} {s : List Char}
    (hp : ∀ c, Text.isAsciiLetter c = true → p c = false) :
    (Text.splitWhen p s).any isRightToLeft = true ↔
      ∃ w : List Char, w.map Text.asciiLower = ['r', 't', 'l'] ∧ Text.Stands p w s := by
  simp only [List.any_eq_true, isRightToLeft, beq_iff_eq, Text.mem_splitWhen_iff]
  constructor
  · rintro ⟨w, ⟨-, hstands⟩, hw⟩
    exact ⟨w, hw, hstands⟩
  · rintro ⟨w, hw, hstands⟩
    exact ⟨w, ⟨fun c hc => hp c (isAsciiLetter_of_rightToLeft hw c hc), hstands⟩, hw⟩

theorem toNat_of_isAsciiLetter {c : Char} (h : Text.isAsciiLetter c = true) :
    65 ≤ c.toNat ∧ c.toNat < 128 := by
  have hpoint : (97 ≤ c.toNat ∧ c.toNat ≤ 122) ∨ (65 ≤ c.toNat ∧ c.toNat ≤ 90) := by
    simpa [Text.isAsciiLetter, Char.le_def, UInt32.le_iff_toNat_le] using h
  omega

/-- **A file is passed over** if its name or its code has the word. -/
theorem skips_iff {f : RawFile} : skips f = true ↔ SaysRightToLeft f := by
  have hdash : ∀ c, Text.isAsciiLetter c = true → (c == '-') = false := by
    intro c hc
    obtain ⟨hlow, -⟩ := toNat_of_isAsciiLetter hc
    rw [beq_eq_false_iff_ne]
    rintro rfl
    exact absurd hlow (by decide)
  have hword : ∀ c, Text.isAsciiLetter c = true → (!Text.isWord c) = false := by
    intro c hc
    rw [Text.isWord, if_pos (toNat_of_isAsciiLetter hc).2, hc]
    rfl
  rw [skips, Bool.or_eq_true, any_isRightToLeft_iff hdash, any_isRightToLeft_iff hword,
    ← exists_or]
  simp only [SaysRightToLeft, and_or_left]

/-! ## Components and variants -/

/-- A name is that of a component, or starts with it and a dash; what stands behind is `rest`. -/
def Names (base id rest : String) : Prop := base = id ∧ rest = "" ∨ base = id ++ "-" ++ rest

/-- A name says its component and what stands behind it. Behind the front that is misspelled stands
an example of the date picker; else the longest component counts. -/
inductive Says (base : String) : String → String → Prop
  | misspelled {rest : String} : base = "data-picker-" ++ rest → Says base "date-picker" rest
  | longest {id rest : String} : (∀ r, base ≠ "data-picker-" ++ r) → id ∈ componentIds →
      Names base id rest → (∀ i ∈ componentIds, ∀ r, Names base i r → i.length ≤ id.length) →
      Says base id rest

theorem startsWith_iff {p s : String} : Text.startsWith p s = true ↔ ∃ r, s = p ++ r := by
  simp [Text.startsWith, Option.isSome_iff_exists, Text.after?_eq_some]

theorem belongsTo_iff {base id : String} : belongsTo base id = true ↔ ∃ rest, Names base id rest := by
  rw [belongsTo, Bool.or_eq_true, beq_iff_eq, startsWith_iff]
  constructor
  · rintro (rfl | ⟨rest, h⟩)
    · exact ⟨"", .inl ⟨rfl, rfl⟩⟩
    · exact ⟨rest, .inr h⟩
  · rintro ⟨rest, ⟨rfl, -⟩ | h⟩
    · exact .inl rfl
    · exact .inr ⟨rest, h⟩

/-- A name belongs to one component of each length at most. -/
theorem Names.unique {base id i rest r : String} (h : Names base id rest) (hi : Names base i r)
    (hlength : id.length = i.length) : id = i ∧ rest = r := by
  have hsame : ∀ {j x : String}, Names base j x → j.toList <+: base.toList := by
    rintro j x (⟨rfl, -⟩ | rfl)
    · exact List.prefix_refl _
    · exact ⟨("-" ++ x).toList, by simp⟩
  have hlists : id.toList.length = i.toList.length := by
    rw [String.length_toList, String.length_toList, hlength]
  have hid : id = i := String.toList_inj.mp
    ((List.prefix_of_prefix_length_le (hsame h) (hsame hi) (Nat.le_of_eq hlists)).eq_of_length
      hlists)
  subst hid
  refine ⟨rfl, ?_⟩
  have hbare : ∀ x, id ≠ id ++ "-" ++ x := fun x h => by
    have hchars : id.toList.length = (id ++ "-" ++ x).toList.length := by rw [← h]
    simp only [String.toList_append, List.length_append] at hchars
    have hdash : "-".toList.length = 1 := rfl
    omega
  rcases h with ⟨rfl, rfl⟩ | rfl
  · rcases hi with ⟨-, rfl⟩ | hi
    · rfl
    · exact absurd hi (hbare _)
  · rcases hi with ⟨hi, -⟩ | hi
    · exact absurd hi.symm (hbare _)
    · simpa [String.append_assoc] using hi

/-- **A name says one component at most,** and one text behind it. -/
theorem Says.unique {base id i rest r : String} (h : Says base id rest) (hi : Says base i r) :
    id = i ∧ rest = r := by
  cases h with
  | misspelled h =>
    cases hi with
    | misspelled hi => exact ⟨rfl, by simpa using h.symm.trans hi⟩
    | longest hfront => exact absurd h (hfront _)
  | longest hfront hid hnames hlongest =>
    cases hi with
    | misspelled hi => exact absurd hi (hfront _)
    | longest _ hi hnames' hlongest' =>
      exact hnames.unique hnames' (Nat.le_antisymm (hlongest' _ hid _ hnames)
        (hlongest _ hi _ hnames'))

/-- **The component of a file** is the one that its name says. -/
theorem componentOf?_eq_some {fileName id : String} :
    componentOf? fileName = some id ↔ ∃ rest, Says (baseName fileName) id rest := by
  have hmem : ∀ i, i ∈ componentIds.filter (belongsTo (baseName fileName)) ↔
      i ∈ componentIds ∧ ∃ r, Names (baseName fileName) i r := fun i => by
    rw [List.mem_filter, belongsTo_iff]
  have hlongest : ∀ {m}, (componentIds.filter (belongsTo (baseName fileName))).foldl longerId none =
      some m → m ∈ componentIds ∧ (∃ r, Names (baseName fileName) m r) ∧
        ∀ i ∈ componentIds, ∀ r, Names (baseName fileName) i r → i.length ≤ m.length := by
    intro m hm
    obtain ⟨hin, hmax⟩ := chooses_longerId.of_foldl hm
    obtain ⟨hid, hnames⟩ := (hmem m).mp hin
    exact ⟨hid, hnames, fun i hi r hr => hmax i ((hmem i).mpr ⟨hi, r, hr⟩)⟩
  rw [componentOf?]
  by_cases hfront : Text.startsWith "data-picker-" (baseName fileName) = true
  · obtain ⟨rest, hrest⟩ := startsWith_iff.mp hfront
    rw [if_pos hfront]
    constructor
    · rintro heq
      obtain rfl := Option.some.inj heq
      exact ⟨rest, .misspelled hrest⟩
    · rintro ⟨r, h⟩
      rw [(Says.misspelled hrest).unique h |>.1]
  · have hother : ∀ r, baseName fileName ≠ "data-picker-" ++ r :=
      fun r h => hfront (startsWith_iff.mpr ⟨r, h⟩)
    rw [if_neg hfront]
    constructor
    · intro h
      obtain ⟨hid, ⟨rest, hnames⟩, hmax⟩ := hlongest h
      exact ⟨rest, .longest hother hid hnames hmax⟩
    · rintro ⟨rest, h⟩
      cases h with
      | misspelled h => exact absurd h (hother _)
      | longest _ hid hnames hmax =>
        have hsome := mt chooses_longerId.foldl_eq_none.mp
          (List.ne_nil_of_mem ((hmem id).mpr ⟨hid, rest, hnames⟩))
        obtain ⟨m, hm⟩ := Option.ne_none_iff_exists'.mp hsome
        obtain ⟨hid', ⟨r, hr⟩, hmax'⟩ := hlongest hm
        rw [hm, (hnames.unique hr (Nat.le_antisymm (hmax' _ hid _ hnames) (hmax _ hid' _ hr))).1]

theorem componentOf?_eq_none {fileName : String} :
    componentOf? fileName = none ↔ ∀ id rest, ¬ Says (baseName fileName) id rest := by
  rw [Option.eq_none_iff_forall_not_mem]
  exact forall_congr' fun id => by rw [Option.mem_def, componentOf?_eq_some, not_exists]

/-! ## Spellings -/

/-- The variant that stands behind a component; nothing stands for the demonstration. -/
def variantOfRest (rest : String) : String := if rest = "" then "demo" else rest

theorem variantOfRest_variantOfRest (rest : String) :
    variantOfRest (variantOfRest rest) = variantOfRest rest := by
  by_cases h : rest = "" <;> simp [variantOfRest, h]

/-- The names, without extension, that spell a variant of a component. -/
inductive Spells : String → String → String → Prop
  | full (id variant : String) : Spells (id ++ "-" ++ variant) id variant
  | bare (id : String) : Spells id id "demo"
  | dangling (id : String) : Spells (id ++ "-") id "demo"
  | misspelled (variant : String) : Spells ("data-picker-" ++ variant) "date-picker" variant
  | misspelledDangling : Spells "data-picker-" "date-picker" "demo"

theorem variantOf_append (front : List Char) (id rest : String)
    (h : front.length = id.length + 1) :
    variantOf (String.ofList (front ++ rest.toList)) id = variantOfRest rest := by
  have hdrop : (front ++ rest.toList).drop (id.length + 1) = rest.toList := by
    rw [← h, List.drop_left]
  rw [variantOf, String.toList_ofList, hdrop, String.ofList_toList, variantOfRest]

/-- **The variant of a file** is what its name spells. -/
theorem Spells.variantOf_eq {base id variant : String} (h : Spells base id variant) :
    variantOf base id = variantOfRest variant := by
  cases h with
  | full =>
    have htext : id ++ "-" ++ variant = String.ofList ((id.toList ++ ['-']) ++ variant.toList) :=
      String.toList_inj.mp (by simp)
    rw [htext, variantOf_append _ _ _ (by simp [String.length_toList])]
  | bare => simp [variantOf, variantOfRest, List.drop_eq_nil_of_le, String.length_toList]
  | dangling => simp [variantOf, variantOfRest, List.drop_eq_nil_of_le, String.length_toList]
  | misspelled =>
    have htext : "data-picker-" ++ variant =
        String.ofList ("data-picker-".toList ++ variant.toList) :=
      String.toList_inj.mp (by simp)
    rw [htext, variantOf_append _ _ _ (by decide)]
  | misspelledDangling => decide

/-- A name spells what it says. -/
theorem Says.spells {base id rest : String} (h : Says base id rest) :
    Spells base id (variantOfRest rest) := by
  by_cases hrest : rest = ""
  · subst hrest
    cases h with
    | misspelled h => exact h ▸ .misspelledDangling
    | longest _ _ hnames _ =>
      rcases hnames with ⟨rfl, -⟩ | rfl
      · exact .bare _
      · simpa [variantOfRest] using Spells.dangling id
  · rw [variantOfRest, if_neg hrest]
    cases h with
    | misspelled h => exact h ▸ .misspelled rest
    | longest _ _ hnames _ =>
      rcases hnames with ⟨-, hnil⟩ | rfl
      · exact absurd hnil hrest
      · exact .full id rest

theorem Says.variantOf_eq {base id rest : String} (h : Says base id rest) :
    variantOf base id = variantOfRest rest :=
  h.spells.variantOf_eq.trans (variantOfRest_variantOfRest rest)

end Example

end LivePreview
