import LivePreview.Proofs.ColorOrLength
import LivePreview.Proofs.JsonText
/-!
# Values that are no negated keywords

Some lengths have names that are no numbers (`sizeKeywords`), and their negatives mean nothing. A
number, a color or a word is never such a negative. So most families negate no keyword in a class
that writes no value out (`Unwritten`, `KeepsRegular`): they do not negate what they read, or read
nothing but numbers where they negate.
-/
namespace LivePreview.Style.Utility

open Value

variable {c s v k front rest value word : String} {n : Nat} {names : Names} {words : List String}
  {u : Utility}

/-! ## Values that negate no keyword -/

/-- The names of lengths that are no numbers, with the words that they stand for. -/
def sizeKeywords : List (String × String) :=
  [("auto", "auto"), ("min", "min-content"), ("max", "max-content"), ("fit", "fit-content")]

/-- Whether a value is the negative of a keyword. -/
def NegatedKeyword (v : String) : Prop := ∃ e ∈ sizeKeywords, v = "calc(" ++ e.2 ++ " * -1)"

/-- Whether a value is neither a keyword nor the negative of one. -/
def Numeric (v : String) : Prop := v ∉ sizeKeywords.map (·.2) ∧ ¬ NegatedKeyword v

instance (v : String) : Decidable (NegatedKeyword v) :=
  inferInstanceAs (Decidable (∃ e ∈ sizeKeywords, _))

instance (v : String) : Decidable (Numeric v) := inferInstanceAs (Decidable (_ ∧ _))

theorem not_negatedKeyword_of_unopened (h : Unopened v) : ¬ NegatedKeyword v := by
  rintro ⟨e, -, rfl⟩
  have hbracket : '(' ∈ ("calc(" ++ e.2 ++ " * -1)").toList := by simp
  have hfalse := h '(' hbracket
  cases hfalse

theorem not_negatedKeyword_append (h : ∀ e ∈ sizeKeywords, apart front ("calc(" ++ e.2) = true)
    (rest : String) : ¬ NegatedKeyword (front ++ rest) := by
  rintro ⟨e, he, heq⟩
  exact append_ne_append (h e he) rest " * -1)" heq

theorem not_keyword_append (h : ∀ w ∈ sizeKeywords.map (·.2), apart front w = true)
    (rest : String) : front ++ rest ∉ sizeKeywords.map (·.2) := fun hmem =>
  append_ne_append (h _ hmem) rest "" String.append_empty.symm

theorem not_negatedKeyword_ofNat (n : Nat) {unit : String} (h : Unopened unit) :
    ¬ NegatedKeyword (Text.ofNat n ++ unit) :=
  not_negatedKeyword_of_unopened (unopened_append (ordinary_ofNat n).unopened h)

/-- No word starts with the digits of a number. -/
theorem ofNat_append_ne (h : word.toList.head?.any Text.isAsciiDigit = false) (n : Nat)
    (rest : String) : Text.ofNat n ++ rest ≠ word := by
  rintro rfl
  obtain ⟨d, ds, hds, hd⟩ := Json.exists_digitsOf_eq_cons n
  simp [Text.ofNat, hds, hd] at h

theorem numeric_ofNat (n : Nat) {unit : String} (h : Unopened unit) :
    Numeric (Text.ofNat n ++ unit) := by
  refine ⟨fun hmem => ?_, not_negatedKeyword_ofNat n h⟩
  have hwords : ∀ w ∈ sizeKeywords.map (·.2), w.toList.head?.any Text.isAsciiDigit = false := by
    decide
  exact ofNat_append_ne (hwords _ hmem) n unit rfl

/-- Only a keyword is negated to the negative of a keyword. -/
theorem eq_of_negate {negative : Bool} (hk : k ∈ sizeKeywords.map (·.2)) (hv : ¬ NegatedKeyword v)
    (h : negate negative v = "calc(" ++ k ++ " * -1)") : negative = true ∧ v = k := by
  obtain ⟨e, he, rfl⟩ := List.mem_map.mp hk
  cases negative with
  | false => exact absurd ⟨e, he, h⟩ hv
  | true =>
    rw [negate] at h
    split at h
    · exact absurd ⟨e, he, h⟩ hv
    · exact ⟨rfl, by simpa [← String.toList_inj] using h⟩

theorem negative_of_negate {negative : Bool} (hk : k ∈ sizeKeywords.map (·.2))
    (hv : Numeric v ∨ (s, v) ∈ sizeKeywords)
    (h : negate negative v = "calc(" ++ k ++ " * -1)") :
    negative = true ∧ (s, k) ∈ sizeKeywords := by
  have hplain : ¬ NegatedKeyword v := by
    have hwords : ∀ e ∈ sizeKeywords, ¬ NegatedKeyword e.2 := by decide
    exact hv.elim And.right (hwords (s, v))
  obtain ⟨hnegative, rfl⟩ := eq_of_negate hk hplain h
  exact ⟨hnegative, hv.resolve_left fun hnumeric => hnumeric.1 hk⟩

theorem not_negatedKeyword_negate {negative : Bool} (hv : Numeric v) :
    ¬ NegatedKeyword (negate negative v) := by
  rintro ⟨e, he, heq⟩
  have hk : e.2 ∈ sizeKeywords.map (·.2) := List.mem_map_of_mem he
  obtain ⟨-, rfl⟩ := eq_of_negate hk hv.2 heq
  exact hv.1 hk

/-! ## Values that are read -/

theorem numeric_of_spacing? (hs : arbitrary? s = none) (h : spacing? s = some v) : Numeric v := by
  rw [spacing?, hs] at h
  dsimp only at h
  split at h
  · obtain rfl := Option.some.inj h
    decide
  split at h
  · obtain rfl := Option.some.inj h
    decide
  split at h
  · obtain rfl := Option.some.inj h
    rw [String.append_assoc]
    exact ⟨not_keyword_append (by decide) _, not_negatedKeyword_append (by decide) _⟩
  · cases h

theorem numeric_of_fraction? {num den : String} (h : fraction? num den = some v) : Numeric v := by
  obtain ⟨n, -, h⟩ := Option.bind_eq_some_iff.mp h
  obtain ⟨d, -, h⟩ := Option.bind_eq_some_iff.mp h
  split at h
  · cases h
  obtain rfl := Option.some.inj h
  simp only [String.append_assoc]
  refine ⟨not_keyword_append (by decide) _, ?_⟩
  rintro ⟨e, he, heq⟩
  -- behind the bracket stands a digit, and no keyword starts with one
  have hwords : ∀ e ∈ sizeKeywords,
      (e.2 ++ " * -1)").toList.head?.any Text.isAsciiDigit = false := by decide
  refine ofNat_append_ne (hwords e he) n ("/" ++ (Text.ofNat d ++ " * 100%)")) ?_
  simpa [← String.toList_inj] using heq

/-- A length that is not written out is a number or a keyword. -/
theorem numeric_or_keyword_of_size? {axis : Axis} (hs : arbitrary? s = none)
    (h : size? axis s = some v) : Numeric v ∨ (s, v) ∈ sizeKeywords := by
  rw [size?, hs] at h
  split at h
  · rename_i w hw
    obtain rfl := Option.some.inj h
    exact of_find?_map (fun s v => Numeric v ∨ (s, v) ∈ sizeKeywords) hw
      (by cases axis <;> decide)
  dsimp only at h
  split at h
  · exact .inl (numeric_of_fraction? h)
  · exact .inl (numeric_of_spacing? hs h)

theorem numeric_of_numberWith? {unit : String} (hs : arbitrary? s = none) (hunit : Unopened unit)
    (h : numberWith? unit s = some v) : Numeric v := by
  rw [numberWith?, hs] at h
  obtain ⟨n, -, rfl⟩ := Option.map_eq_some_iff.mp h
  exact numeric_ofNat n hunit

theorem not_negatedKeyword_of_lookup? {table : List (String × String)}
    (htable : ∀ e ∈ table, ¬ NegatedKeyword e.2) (h : lookup? table s = some v) :
    ¬ NegatedKeyword v :=
  of_find?_map (fun _ v => ¬ NegatedKeyword v) h htable

theorem not_negatedKeyword_of_contains {keywords : List String}
    (hkeywords : ∀ s ∈ keywords, ¬ NegatedKeyword s) (h : keywords.contains v = true) :
    ¬ NegatedKeyword v :=
  hkeywords v (List.contains_iff_mem.mp h)

theorem not_negatedKeyword_of_size? {axis : Axis} (hs : arbitrary? s = none)
    (h : size? axis s = some v) : ¬ NegatedKeyword v := by
  have hwords : ∀ e ∈ sizeKeywords, ¬ NegatedKeyword e.2 := by decide
  exact (numeric_or_keyword_of_size? hs h).elim And.right (hwords (s, v))

theorem not_negatedKeyword_of_color? (hs : arbitrary? s = none)
    (h : Value.color? names s = some v) : ¬ NegatedKeyword v := by
  rw [Value.color?] at h
  split at h
  rename_i base opacity hsplit
  obtain ⟨color, hcolor, h⟩ := Option.bind_eq_some_iff.mp h
  split at h
  · obtain rfl := Option.some.inj h
    obtain rfl : base = s := by
      rw [splitOpacity] at hsplit
      split at hsplit
      · split at hsplit
        · cases (Prod.mk.inj hsplit).2
        · exact (Prod.mk.inj hsplit).1.symm
      · exact (Prod.mk.inj hsplit).1.symm
    rw [plainColor?, hs] at hcolor
    dsimp only at hcolor
    split at hcolor
    · rename_i w hw
      obtain rfl := Option.some.inj hcolor
      exact of_paletteColor? (fun v => ¬ NegatedKeyword v) (by decide) (by decide +kernel) hw
    split at hcolor
    · obtain rfl := Option.some.inj hcolor
      rw [String.append_assoc]
      exact not_negatedKeyword_append (by decide) _
    · cases hcolor
  · obtain ⟨percent, -, h⟩ := Option.bind_eq_some_iff.mp h
    split at h
    · cases h
    obtain rfl := Option.some.inj h
    simp only [String.append_assoc]
    exact not_negatedKeyword_append (by decide) _

/-! ## Classes that write no value out -/

/-- Whether what stands behind one of the fronts of a class is no value that is written out. -/
def Unwritten (fronts : List String) (c : String) : Prop :=
  ∀ front ∈ fronts, ∀ value, c = front ++ value → arbitrary? value = none

theorem Unwritten.of_after? (h : Unwritten words c) (hafter : Text.after? front c = some value)
    (hfront : front ∈ words) : arbitrary? value = none :=
  h front hfront value (Text.after?_eq_some.mp hafter)

theorem Unwritten.itself (h : Unwritten [""] c) : arbitrary? c = none :=
  h "" List.mem_cons_self c String.empty_append.symm

theorem unwritten_of_eq_none (h : arbitrary? c = none) : Unwritten [""] c := by
  rintro front hfront value rfl
  obtain rfl := List.mem_singleton.mp hfront
  rwa [String.empty_append] at h

theorem Unwritten.of_cutPrefix? {α : Type} {table : List (String × α)} {x : α}
    (h : Unwritten words c) (hcut : cutPrefix? table c = some (x, value))
    (htable : ∀ e ∈ table, e.1 ∈ words) : arbitrary? value = none := by
  obtain ⟨front, hfront, hc⟩ :=
    exists_front_of_cutPrefix? (fun front _ => front ∈ words) hcut htable
  exact h front hfront value hc

theorem Unwritten.of_tail? (h : Unwritten words c) (htail : tail? word c = some rest)
    (hfront : word ++ "-" ∈ words) : arbitrary? rest = none := by
  rcases eq_of_tail? htail with ⟨-, rfl⟩ | hc
  · decide
  · exact h _ hfront rest hc

theorem Unwritten.of_after?_dash (h : Unwritten words c) (hafter : Text.after? word c = some rest)
    (hdash : Text.after? "-" rest = some value) (hfront : word ++ "-" ∈ words) :
    arbitrary? value = none := by
  refine h _ hfront value ?_
  rw [Text.after?_eq_some.mp hafter, Text.after?_eq_some.mp hdash, String.append_assoc]

theorem Unwritten.of_splitSide {α : Type} {side? : String → Option α} {side : Option α}
    (hc : Unwritten words c) (htail : tail? word c = some rest)
    (hsplit : splitSide side? rest = (side, value)) (hword : word ++ "-" ∈ words)
    (hside : ∀ s a, side? s = some a → word ++ "-" ++ s ++ "-" ∈ words) :
    arbitrary? value = none := by
  rcases eq_of_splitSide hsplit with ⟨-, rfl⟩ | ⟨s, a, ha, -, ⟨-, rfl⟩ | rfl⟩
  · exact hc.of_tail? htail hword
  · decide
  · rcases eq_of_tail? htail with ⟨-, hempty⟩ | hclass
    · rw [← String.toList_inj] at hempty
      simp at hempty
    · refine hc _ (hside s a ha) value ?_
      rw [hclass]
      simp only [String.append_assoc]

theorem unwritten_of_unopened (h : Unopened c) : Unwritten words c := by
  rintro front - value rfl
  rw [Option.eq_none_iff_forall_ne_some]
  intro v hv
  exact not_unopened_append front (opens_of_arbitrary? hv).not_unopened h

/-- Whether a utility negates no keyword. -/
def Regular (u : Utility) : Prop := ∀ d ∈ u.declarations, ¬ NegatedKeyword d.2

/-- Whether a family negates no keyword in classes that write no value out. -/
def KeepsRegular (fronts : List String) (family : String → Option Utility) : Prop :=
  ∀ {c u}, Unwritten fronts c → family c = some u → u.Regular

theorem regular_one {p : String} (hv : ¬ NegatedKeyword v) : (one p v).Regular := by
  simpa [Regular, one, ofList] using hv

theorem regular_cons {p : String} {declarations : List Declaration} (hv : ¬ NegatedKeyword v)
    (h : (ofList declarations).Regular) : (ofList ((p, v) :: declarations)).Regular :=
  List.forall_mem_cons.mpr ⟨hv, h⟩

theorem regular_same {properties : List String} (hv : ¬ NegatedKeyword v) :
    (same properties v).Regular := by
  intro d hd
  obtain ⟨p, -, rfl⟩ := List.mem_map.mp hd
  exact hv

theorem regular_of_map_one {p : String} {value? : Option String}
    (hv : ∀ v, value? = some v → ¬ NegatedKeyword v) (h : value?.map (one p) = some u) :
    u.Regular := by
  obtain ⟨v, hvalue, rfl⟩ := Option.map_eq_some_iff.mp h
  exact regular_one (hv v hvalue)

theorem regular_of_inTable? {table : List (String × List Declaration)}
    (htable : ∀ e ∈ table, ∀ d ∈ e.2, ¬ NegatedKeyword d.2) (h : inTable? table c = some u) :
    u.Regular := by
  obtain ⟨declarations, hmem, rfl⟩ := exists_of_inTable? h
  exact htable _ hmem

namespace Family

/-! ## Layout -/

theorem keepsRegular_display : KeepsRegular display.fronts display? := fun _ h =>
  regular_of_inTable? (by decide) h

theorem keepsRegular_zIndex : KeepsRegular zIndex.fronts zIndex? := by
  intro c u hc h
  obtain ⟨value, hafter, h⟩ := Option.bind_eq_some_iff.mp h
  split at h
  · obtain rfl := Option.some.inj h
    exact regular_one (by decide)
  rw [hc.of_after? hafter (by decide)] at h
  obtain ⟨n, hn, h⟩ := Option.bind_eq_some_iff.mp h
  obtain rfl := Option.some.inj h
  exact regular_one (not_negatedKeyword_of_unopened (ordinary_of_word? hn).unopened)

theorem keepsRegular_overflow : KeepsRegular overflow.fronts overflow? := by
  intro c u _ h
  obtain ⟨⟨property, value⟩, -, h⟩ := Option.bind_eq_some_iff.mp h
  dsimp only at h
  split at h
  · rename_i hkeyword
    obtain rfl := Option.some.inj h
    exact regular_one (not_negatedKeyword_of_contains (by decide) hkeyword)
  · cases h

theorem keepsRegular_appearance : KeepsRegular appearance.fronts appearance? := fun _ h =>
  regular_of_inTable? (by decide) h

theorem keepsRegular_flex : KeepsRegular flex.fronts flex? := by
  intro c u hc h
  rw [flex?] at h
  split at h
  · rename_i w hw
    obtain rfl := Option.some.inj h
    exact regular_of_inTable? (by decide) hw
  split at h
  · rename_i value hafter
    have hvalue := hc.of_after? hafter (by decide)
    exact regular_of_map_one (fun v => not_negatedKeyword_of_size? hvalue) h
  split at h
  · refine regular_of_map_one (fun v hv => ?_) h
    rw [order?] at hv
    split at hv
    · rename_i w hw
      obtain rfl := Option.some.inj hv
      exact not_negatedKeyword_of_lookup? (by decide) hw
    · obtain ⟨n, hn, rfl⟩ := Option.map_eq_some_iff.mp hv
      exact not_negatedKeyword_of_unopened (ordinary_of_word? hn).unopened
  · cases h

theorem keepsRegular_grid : KeepsRegular grid.fronts grid? := by
  intro c u hc h
  obtain ⟨⟨⟨property, isSpan⟩, value⟩, hcut, h⟩ := Option.bind_eq_some_iff.mp h
  have hvalue := hc.of_cutPrefix? hcut (by decide)
  refine regular_of_map_one (fun v hv => ?_) h
  split at hv
  · rw [span?] at hv
    split at hv
    · obtain rfl := Option.some.inj hv
      decide
    · obtain ⟨n, -, rfl⟩ := Option.map_eq_some_iff.mp hv
      simp only [String.append_assoc]
      exact not_negatedKeyword_append (by decide) _
  · rw [tracks?, hvalue] at hv
    split at hv
    · obtain rfl := Option.some.inj hv
      decide
    · obtain ⟨n, -, rfl⟩ := Option.map_eq_some_iff.mp hv
      rw [String.append_assoc]
      exact not_negatedKeyword_append (by decide) _

theorem keepsRegular_align : KeepsRegular align.fronts align? := by
  intro c u _ h
  obtain ⟨⟨property, value⟩, -, h⟩ := Option.bind_eq_some_iff.mp h
  refine regular_of_map_one (fun v hv => not_negatedKeyword_of_lookup? ?_ hv) h
  cases ["justify-content", "align-items", "align-content"].contains property <;> decide

/-! ## Spacing and sizes -/

theorem keepsRegular_gap : KeepsRegular gap.fronts gap? := by
  intro c u hc h
  obtain ⟨⟨property, value⟩, hcut, h⟩ := Option.bind_eq_some_iff.mp h
  have hvalue := hc.of_cutPrefix? hcut (by decide)
  exact regular_of_map_one (fun v hv => (numeric_of_spacing? hvalue hv).2) h

theorem keepsRegular_between : KeepsRegular between.fronts between? := by
  intro c u hc h
  obtain ⟨⟨property, value⟩, hcut, h⟩ := Option.bind_eq_some_iff.mp h
  obtain ⟨v, hv, h⟩ := Option.bind_eq_some_iff.mp h
  obtain rfl := Option.some.inj h
  have hvalue := hc.of_cutPrefix? hcut (by decide)
  exact regular_one (p := property) (numeric_of_spacing? hvalue hv).2

theorem keepsRegular_sizing : KeepsRegular sizing.fronts sizing? := by
  intro c u hc h
  rw [sizing?] at h
  split at h
  · rename_i value hafter
    have hvalue := hc.of_after? hafter (by decide)
    obtain ⟨v, hv, rfl⟩ := Option.map_eq_some_iff.mp h
    exact regular_same (not_negatedKeyword_of_size? hvalue hv)
  split at h
  · rename_i value hafter
    have hvalue := hc.of_after? hafter (by decide)
    split at h
    · rename_i w hw
      obtain rfl := Option.some.inj h
      exact regular_one (not_negatedKeyword_of_lookup? (by decide) hw)
    · exact regular_of_map_one (fun v => not_negatedKeyword_of_size? hvalue) h
  · obtain ⟨⟨⟨property, axis⟩, value⟩, hcut, h⟩ := Option.bind_eq_some_iff.mp h
    have hvalue := hc.of_cutPrefix? hcut (by decide)
    exact regular_of_map_one (fun v => not_negatedKeyword_of_size? hvalue) h

/-- Only a number follows the sign of a margin. -/
theorem keepsRegular_padding : KeepsRegular padding.fronts padding? := by
  intro c u hc h
  rw [padding?] at h
  split at h
  rename_i negative rest hsign
  obtain ⟨⟨key, value⟩, hcut, h⟩ := Option.bind_eq_some_iff.mp h
  have hclass : c = (if negative then "-" else "") ++ key ++ "-" ++ value := by
    rw [eq_of_sign hsign, Text.eq_append_of_cut? hcut]
    simp only [String.append_assoc]
  dsimp only at h
  split at h
  · rename_i property hlookup
    have hkey : key ++ "-" ∈ padding.fronts ∧ "-" ++ key ++ "-" ∈ padding.fronts :=
      of_find?_map (fun k _ => k ++ "-" ∈ padding.fronts ∧ "-" ++ k ++ "-" ∈ padding.fronts)
        hlookup (by decide)
    split at h
    · split at h
      · cases h
      · obtain rfl := Option.some.inj h
        exact regular_one (by decide)
    · obtain ⟨v, hv, h⟩ := Option.bind_eq_some_iff.mp h
      obtain rfl := Option.some.inj h
      have hvalue : arbitrary? value = none := by
        refine hc _ ?_ value hclass
        cases negative with
        | false => simpa using hkey.1
        | true => exact hkey.2
      exact regular_one (not_negatedKeyword_negate (numeric_of_spacing? hvalue hv))
  · obtain ⟨property, hlookup, h⟩ := Option.bind_eq_some_iff.mp h
    have hkey : key ++ "-" ∈ padding.fronts :=
      of_find?_map (fun k _ => k ++ "-" ∈ padding.fronts) hlookup (by decide)
    cases negative with
    | true => cases h
    | false =>
      have hvalue : arbitrary? value = none := hc _ (by simpa using hkey) value hclass
      exact regular_of_map_one (fun v hv => (numeric_of_spacing? hvalue hv).2) h

/-! ## Text -/

theorem keepsRegular_lineClamp? : KeepsRegular [""] lineClamp? := by
  intro value u hvalue h
  rw [lineClamp?, hvalue.itself] at h
  split at h
  · obtain rfl := Option.some.inj h
    unfold Regular
    decide
  · obtain ⟨lines, hlines, rfl⟩ := Option.map_eq_some_iff.mp h
    obtain ⟨n, -, rfl⟩ := Option.map_eq_some_iff.mp hlines
    have hn : ¬ NegatedKeyword (Text.ofNat n) :=
      not_negatedKeyword_of_unopened (ordinary_ofNat n).unopened
    exact regular_cons (by decide) (regular_cons (by decide)
      (regular_cons (by decide) (regular_one hn)))

theorem keepsRegular_fontSize? : KeepsRegular [""] fontSize? := by
  intro value u hvalue h
  rw [fontSize?, hvalue.itself] at h
  split at h
  · rename_i size hsize
    obtain rfl := Option.some.inj h
    exact regular_of_inTable? (by decide) hsize
  split at h
  · cases h
  · cases h

theorem keepsRegular_typography : KeepsRegular typography.fronts typography? := by
  intro c u hc h
  rw [typography?] at h
  split at h
  · rename_i w hw
    obtain rfl := Option.some.inj h
    exact regular_of_inTable? (by decide) hw
  · -- each prefix comes with a reader of its own, which is a family with an empty front
    obtain ⟨⟨read, value⟩, hcut, h⟩ := Option.bind_eq_some_iff.mp h
    have hweight : KeepsRegular [""] fun v => (lookup? fontWeights v).map (one "font-weight") :=
      fun _ h => regular_of_map_one (fun v => not_negatedKeyword_of_lookup? (by decide)) h
    have htracking :
        KeepsRegular [""] fun v => (lookup? letterSpacings v).map (one "letter-spacing") :=
      fun _ h => regular_of_map_one (fun v => not_negatedKeyword_of_lookup? (by decide)) h
    obtain ⟨front, ⟨hfront, hread⟩, hclass⟩ := exists_front_of_cutPrefix?
      (fun front read => front ∈ typography.fronts ∧ KeepsRegular [""] read) hcut (by
        simp only [List.forall_mem_cons]
        refine ⟨⟨by decide, keepsRegular_lineClamp?⟩, ⟨by decide, keepsRegular_fontSize?⟩,
          ⟨by decide, hweight⟩, ⟨by decide, ?_⟩, ⟨by decide, htracking⟩, by simp⟩
        intro v u hv h
        refine regular_of_map_one (fun w hw => ?_) h
        split at hw
        · rename_i height hheight
          obtain rfl := Option.some.inj hw
          exact not_negatedKeyword_of_lookup? (by decide) hheight
        · exact (numeric_of_spacing? hv.itself hw).2)
    exact hread (unwritten_of_eq_none (hc front hfront value hclass)) h

/-! ## Surfaces -/

theorem keepsRegular_color : KeepsRegular color.fronts (color? names) := by
  intro c u hc h
  obtain ⟨⟨property, value⟩, hcut, h⟩ := Option.bind_eq_some_iff.mp h
  have hvalue := hc.of_cutPrefix? hcut (by decide)
  exact regular_of_map_one (fun v => not_negatedKeyword_of_color? hvalue) h

theorem not_negatedKeyword_pixels (n : Nat) : ¬ NegatedKeyword (pixels n) :=
  not_negatedKeyword_ofNat n (by decide)

theorem not_negatedKeyword_of_lineWidth? (hvalue : arbitrary? value = none)
    (h : lineWidth? value = some v) : ¬ NegatedKeyword v := by
  rw [lineWidth?, hvalue] at h
  split at h
  · obtain rfl := Option.some.inj h
    decide
  split at h
  · cases h
  · cases h
  · obtain ⟨n, -, rfl⟩ := Option.map_eq_some_iff.mp h
    exact not_negatedKeyword_pixels n

theorem keepsRegular_border : KeepsRegular border.fronts (border? names) := by
  intro c u hc h
  obtain ⟨rest, htail, h⟩ := Option.bind_eq_some_iff.mp h
  split at h
  · rename_i hstyle
    obtain rfl := Option.some.inj h
    exact regular_one (not_negatedKeyword_of_contains (by decide) hstyle)
  split at h
  rename_i side value hsplit
  have hvalue : arbitrary? value = none := hc.of_splitSide htail hsplit (by decide) fun s a ha =>
    of_find?_map (fun s _ => "border" ++ "-" ++ s ++ "-" ∈ border.fronts) ha (by decide)
  split at h
  · rename_i width hwidth
    obtain rfl := Option.some.inj h
    exact regular_cons (by decide)
      (regular_one (not_negatedKeyword_of_lineWidth? hvalue hwidth))
  split at h
  · cases h
  · exact regular_of_map_one (fun v => not_negatedKeyword_of_color? hvalue) h

theorem keepsRegular_radius : KeepsRegular radius.fronts (radius? names) := by
  intro c u hc h
  obtain ⟨rest, htail, h⟩ := Option.bind_eq_some_iff.mp h
  split at h
  rename_i corners value hsplit
  have hvalue : arbitrary? value = none := hc.of_splitSide htail hsplit (by decide) fun s a ha =>
    of_find?_map (fun s _ => "rounded" ++ "-" ++ s ++ "-" ∈ radius.fronts) ha (by decide)
  obtain ⟨r, hradius, h⟩ := Option.bind_eq_some_iff.mp h
  obtain rfl := Option.some.inj h
  refine regular_same ?_
  rw [radiusValue?, hvalue] at hradius
  dsimp only at hradius
  split at hradius
  · obtain rfl := Option.some.inj hradius
    rw [String.append_assoc]
    exact not_negatedKeyword_append (by decide) _
  · exact not_negatedKeyword_of_lookup? (by decide) hradius

theorem keepsRegular_ring : KeepsRegular ring.fronts (ring? names) := by
  intro c u hc h
  obtain ⟨rest, hafter, h⟩ := Option.bind_eq_some_iff.mp h
  dsimp only at h
  split at h
  · obtain rfl := Option.some.inj h
    simp only [String.append_assoc]
    exact regular_one (not_negatedKeyword_append (by decide) _)
  · obtain ⟨value, hvalue, h⟩ := Option.bind_eq_some_iff.mp h
    have hread := hc.of_after?_dash hafter hvalue (by decide)
    exact regular_of_map_one (fun v => not_negatedKeyword_of_color? hread) h

theorem keepsRegular_shadow : KeepsRegular shadow.fronts shadow? := fun _ h =>
  regular_of_map_one (fun _ hv => not_negatedKeyword_of_lookup? (by decide) hv) h

theorem keepsRegular_opacity : KeepsRegular opacity.fronts opacity? := by
  intro c u hc h
  obtain ⟨value, hafter, h⟩ := Option.bind_eq_some_iff.mp h
  rw [hc.of_after? hafter (by decide)] at h
  obtain ⟨n, -, h⟩ := Option.bind_eq_some_iff.mp h
  split at h
  · cases h
  obtain rfl := Option.some.inj h
  exact regular_one (not_negatedKeyword_ofNat n (by decide))

theorem keepsRegular_interaction : KeepsRegular interaction.fronts interaction? := by
  intro c u _ h
  rw [interaction?] at h
  split at h
  · split at h
    · rename_i hkeyword
      obtain rfl := Option.some.inj h
      exact regular_one (not_negatedKeyword_of_contains (by decide) hkeyword)
    · cases h
  split at h
  · split at h
    · rename_i hkeyword
      obtain rfl := Option.some.inj h
      exact regular_one (not_negatedKeyword_of_contains (by decide) hkeyword)
    · cases h
  · exact regular_of_inTable? (by decide) h

theorem keepsRegular_outline : KeepsRegular outline.fronts (outline? names) := by
  intro c u hc h
  obtain ⟨rest, hafter, h⟩ := Option.bind_eq_some_iff.mp h
  split at h
  · obtain rfl := Option.some.inj h
    unfold Regular
    decide
  obtain ⟨value, hvalue, h⟩ := Option.bind_eq_some_iff.mp h
  split at h
  · obtain ⟨n, -, rfl⟩ := Option.map_eq_some_iff.mp h
    exact regular_one (not_negatedKeyword_pixels n)
  split at h
  · rename_i n _
    obtain rfl := Option.some.inj h
    exact regular_cons (by decide) (regular_one (not_negatedKeyword_pixels n))
  · have hread := hc.of_after?_dash hafter hvalue (by decide)
    exact regular_of_map_one (fun v => not_negatedKeyword_of_color? hread) h

theorem keepsRegular_drawing : KeepsRegular drawing.fronts (drawing? names) := by
  intro c u hc h
  rw [drawing?] at h
  split at h
  · rename_i value hafter
    have hvalue := hc.of_after? hafter (by decide)
    exact regular_of_map_one (fun v => not_negatedKeyword_of_color? hvalue) h
  split at h
  · rename_i value hafter
    have hvalue := hc.of_after? hafter (by decide)
    split at h
    · rename_i n _
      obtain rfl := Option.some.inj h
      exact regular_one (not_negatedKeyword_of_unopened (ordinary_ofNat n).unopened)
    · exact regular_of_map_one (fun v => not_negatedKeyword_of_color? hvalue) h
  · cases h

/-! ## Motion -/

theorem keepsRegular_filter : KeepsRegular filter.fronts filter? := by
  intro c u _ h
  obtain ⟨⟨property, rest⟩, -, h⟩ := Option.bind_eq_some_iff.mp h
  have hread : ∃ radius,
      one property (if radius = "" then "none" else "blur(" ++ radius ++ ")") = u := by
    dsimp only at h
    split at h
    · obtain ⟨value, -, h⟩ := Option.bind_eq_some_iff.mp h
      obtain ⟨radius, -, h⟩ := Option.bind_eq_some_iff.mp h
      exact ⟨radius, Option.some.inj h⟩
    · obtain ⟨value, -, h⟩ := Option.bind_eq_some_iff.mp h
      obtain ⟨radius, -, h⟩ := Option.bind_eq_some_iff.mp h
      exact ⟨radius, Option.some.inj h⟩
  obtain ⟨radius, rfl⟩ := hread
  refine regular_one ?_
  split
  · decide
  · rw [String.append_assoc]
    exact not_negatedKeyword_append (by decide) _

theorem keepsRegular_transition : KeepsRegular transition.fronts transition? := by
  intro c u _ h
  rw [transition?] at h
  split at h
  · rename_i properties hlookup
    obtain rfl := Option.some.inj h
    exact regular_cons (not_negatedKeyword_of_lookup? (by decide) hlookup)
      (regular_cons (by decide) (regular_one (by decide)))
  split at h
  · obtain rfl := Option.some.inj h
    exact regular_one (by decide)
  split at h
  · obtain ⟨n, -, rfl⟩ := Option.map_eq_some_iff.mp h
    exact regular_same (not_negatedKeyword_ofNat n (by decide))
  · obtain ⟨value, -, h⟩ := Option.bind_eq_some_iff.mp h
    exact regular_of_map_one (fun v hv => not_negatedKeyword_of_lookup? (by decide) hv) h

theorem keepsRegular_animation : KeepsRegular animation.fronts animation? := fun _ h =>
  regular_of_map_one (fun _ hv => not_negatedKeyword_of_lookup? (by decide) hv) h

end Family

end LivePreview.Style.Utility
