import LivePreview.Proofs.Brackets
import LivePreview.Style.Utility.Basic
/-!
# Values that a class writes out

The value that a class writes out starts at the first bracket of the class, and nothing but an
opacity may follow it (`written`). A class is clean if that value closes what it opens (`Clean`);
then so does every value that is read from the class, for all the other values are made of words,
numbers, and brackets around them.
-/
namespace LivePreview.Style

/-! ## Ordinary texts -/

theorem isOrdinary_of_isAsciiDigit {c : Char} (h : Text.isAsciiDigit c = true) :
    isOrdinary c = true := by
  have hmarks : marks.all (!Text.isAsciiDigit ·) = true := by decide
  exact isOrdinary_of_all_marks hmarks (by simpa using h)

theorem ordinary_ofNat (n : Nat) : Ordinary (Text.ofNat n) := by
  refine fun c hc => isOrdinary_of_isAsciiDigit ?_
  rw [Text.ofNat, String.toList_ofList] at hc
  exact Nat.isDigit_of_mem_toDigits (by decide) (by decide) hc

theorem flat_ofNat (n : Nat) : Flat (Text.ofNat n) := (ordinary_ofNat n).flat

theorem isOrdinary_of_isDigits {s : List Char} (h : Text.isDigits s = true) :
    ∀ c ∈ s, isOrdinary c = true := by
  intro c hc
  have hall : s.all Text.isAsciiDigit = true := by
    simp only [Text.isDigits, Bool.and_eq_true] at h
    exact h.2
  exact isOrdinary_of_isAsciiDigit (List.all_eq_true.mp hall c hc)

/-- A number is made of digits behind at most one plus sign. -/
theorem mem_of_word? {s : String} {n : Nat} (h : Text.word? s = some n) :
    ∀ c ∈ s.toList, c = '+' ∨ Text.isAsciiDigit c = true := by
  have hdigits : ∀ {r : List Char}, Text.wordOfDigits? r = some n →
      ∀ c ∈ r, Text.isAsciiDigit c = true := by
    intro r hr
    rw [Text.wordOfDigits?] at hr
    split at hr
    · rename_i hrun
      simp only [Text.isDigits, Bool.and_eq_true] at hrun
      exact List.all_eq_true.mp hrun.2
    · cases hr
  rw [Text.word?] at h
  split at h
  · rename_i r hr
    intro c hc
    rw [hr] at hc
    exact (List.mem_cons.mp hc).imp_right (hdigits h c)
  · exact fun c hc => .inr (hdigits h c hc)

theorem ordinary_of_word? {s : String} {n : Nat} (h : Text.word? s = some n) : Ordinary s := by
  intro c hc
  rcases mem_of_word? h c hc with rfl | hdigit
  · decide
  · exact isOrdinary_of_isAsciiDigit hdigit

theorem flat_of_word? {s : String} {n : Nat} (h : Text.word? s = some n) : Flat s :=
  (ordinary_of_word? h).flat

theorem flat_of_isDigits {s : String} (h : Text.isDigits s.toList = true) : Flat s :=
  Ordinary.flat (isOrdinary_of_isDigits h)

theorem flat_of_isScaleNumber {s : String} (h : Value.isScaleNumber s = true) : Flat s := by
  rw [Value.isScaleNumber] at h
  split at h
  · rename_i whole fraction hcut
    obtain rfl := Text.eq_append_of_cut? hcut
    obtain ⟨hwhole, hfraction⟩ := Bool.and_eq_true_iff.mp h
    have hflat : Flat fraction := by
      obtain (rfl | rfl) | rfl : (fraction = "5" ∨ fraction = "25") ∨ fraction = "75" := by
        simpa using hfraction
      all_goals decide
    exact ((flat_of_isDigits hwhole).append (by decide)).append hflat
  · exact flat_of_isDigits h

/-! ## The value of a class -/

/-- Whether a character opens a value that is written out. -/
def opensValue (c : Char) : Bool := c = '[' || c = '('

/-- A class from its first bracket on. -/
def fromBracket (c : String) : String :=
  String.ofList (c.toList.dropWhile fun d => !opensValue d)

/-- The value that a class writes out, if there is one, without an opacity behind it. -/
def written (c : String) : List String :=
  [fromBracket c, (Value.splitOpacity (fromBracket c)).1].filterMap Value.arbitrary?

/-- Whether the value that a class writes out is closed. -/
def Clean (c : String) : Prop := ∀ v ∈ written c, Complete v

/-- Whether a text has no bracket that opens a value. -/
def Unopened (t : String) : Prop := ∀ c ∈ t.toList, opensValue c = false

theorem Ordinary.unopened {t : String} (h : Ordinary t) : Unopened t := by
  intro c hc
  have hordinary : isOrdinary c = true := h c hc
  rw [opensValue, Bool.or_eq_false_iff, decide_eq_false_iff_not, decide_eq_false_iff_not]
  constructor <;> (rintro rfl; exact absurd hordinary (by decide))

instance (t : String) : Decidable (Unopened t) :=
  if h : (bytes t).all isOrdinaryByte = true then
    isTrue (ordinary_of_bytes h).unopened
  else List.decidableBAll _ t.toList

variable {front rest c s v : String}

theorem unopened_append (ha : Unopened front) (hb : Unopened rest) : Unopened (front ++ rest) := by
  intro d hd
  rw [String.toList_append, List.mem_append] at hd
  exact hd.elim (ha d) (hb d)

/-- What stands in front of the first bracket does not count. -/
theorem clean_append_iff (hfront : Unopened front) : Clean (front ++ rest) ↔ Clean rest := by
  have hsame : fromBracket (front ++ rest) = fromBracket rest := by
    rw [fromBracket, fromBracket, String.toList_append,
      List.dropWhile_append_of_pos fun d hd => by simp [hfront d hd]]
  rw [Clean, Clean, written, written, hsame]

theorem Clean.behind (h : Clean (front ++ rest)) (hfront : Unopened front) : Clean rest :=
  (clean_append_iff hfront).mp h

theorem Clean.after? (h : Clean c) (hafter : Text.after? front c = some rest)
    (hfront : Unopened front) : Clean rest :=
  Clean.behind (Text.after?_eq_some.mp hafter ▸ h) hfront

/-- A word in front of a dash does not count. -/
theorem Clean.of_cut? (h : Clean c) (hcut : Text.cut? "-" c = some (front, rest))
    (hfront : Unopened front) : Clean rest := by
  obtain rfl := Text.eq_append_of_cut? hcut
  rw [String.append_assoc] at h
  exact (h.behind hfront).behind (by decide)

theorem clean_empty : Clean "" := by
  have hnone : written "" = [] := by decide
  simp [Clean, hnone]

theorem clean_of_unopened (hs : Unopened s) : Clean s := by
  rw [← String.append_empty (s := s), clean_append_iff hs]
  exact clean_empty

theorem inside?_eq_some {opening closing : String} :
    inside? opening closing s = some rest ↔ s = opening ++ (rest ++ closing) := by
  simp [inside?, Option.bind_eq_some_iff, Text.after?_eq_some, Text.before?_eq_some]

/-- A value that is written out stands in brackets or in parentheses. -/
theorem exists_brackets_of_arbitrary? (h : Value.arbitrary? s = some v) :
    ∃ opening closing inner, (opening = "(" ∧ closing = ")" ∨ opening = "[" ∧ closing = "]") ∧
      s = opening ++ (inner ++ closing) := by
  obtain ⟨p, hhinted, -⟩ := Option.map_eq_some_iff.mp h
  rw [Value.hinted?] at hhinted
  split at hhinted
  · rename_i inner hinner
    exact ⟨"(", ")", inner, .inl ⟨rfl, rfl⟩, inside?_eq_some.mp hinner⟩
  · obtain ⟨inner, hinner, -⟩ := Option.bind_eq_some_iff.mp hhinted
    exact ⟨"[", "]", inner, .inr ⟨rfl, rfl⟩, inside?_eq_some.mp hinner⟩

/-- A value that is written out starts with its bracket. -/
theorem fromBracket_of_arbitrary? (h : Value.arbitrary? s = some v) (rest : String) :
    fromBracket (s ++ rest) = s ++ rest := by
  obtain ⟨opening, closing, inner, hbrackets, rfl⟩ := exists_brackets_of_arbitrary? h
  rcases hbrackets with ⟨rfl, -⟩ | ⟨rfl, -⟩ <;>
    simp [fromBracket, opensValue, ← String.toList_inj]

theorem Clean.arbitrary? (h : Clean s) (hv : Value.arbitrary? s = some v) : Complete v := by
  refine h v (List.mem_filterMap.mpr ⟨fromBracket s, by simp, ?_⟩)
  have hfrom := fromBracket_of_arbitrary? hv ""
  rw [String.append_empty] at hfrom
  rwa [hfrom]

/-- An opacity behind a color does not count. -/
theorem Clean.arbitrary?_splitOpacity (h : Clean s)
    (hv : Value.arbitrary? (Value.splitOpacity s).1 = some v) : Complete v := by
  have hsplit : ∃ rest, s = (Value.splitOpacity s).1 ++ rest := by
    rw [Value.splitOpacity]
    split
    · rename_i base a hcut
      split
      · exact ⟨_, by rw [← String.append_assoc]; exact Text.eq_append_of_cutLast? hcut⟩
      · exact ⟨"", by simp⟩
    · exact ⟨"", by simp⟩
  obtain ⟨rest, hs⟩ := hsplit
  refine h v (List.mem_filterMap.mpr ⟨(Value.splitOpacity (fromBracket s)).1, by simp, ?_⟩)
  have hfrom := fromBracket_of_arbitrary? hv rest
  rw [← hs] at hfrom
  rwa [hfrom]

/-! ## Values that are read -/

/-- What stands under a key of a table is what the table says of it. -/
theorem of_find?_map {α : Type} {table : List (String × α)} {a : α} (P : String → α → Prop)
    (h : (table.find? fun e => e.1 = s).map (·.2) = some a) (htable : ∀ e ∈ table, P e.1 e.2) :
    P s a := by
  obtain ⟨⟨key, value⟩, hfind, rfl⟩ := Option.map_eq_some_iff.mp h
  obtain rfl : key = s := by simpa using List.find?_some hfind
  exact htable _ (List.mem_of_find?_eq_some hfind)

theorem complete_of_lookup? {table : List (String × String)} (htable : ∀ e ∈ table, Flat e.2)
    (h : lookup? table s = some v) : Complete v :=
  .of_closed (of_find?_map (fun _ => Flat) h htable)

namespace Value

theorem complete_of_spacing? (hs : Clean s) (h : spacing? s = some v) : Complete v := by
  rw [spacing?] at h
  split at h
  · rename_i w hw
    obtain rfl := Option.some.inj h
    exact hs.arbitrary? hw
  · split at h
    · obtain rfl := Option.some.inj h
      exact ⟨0, by decide⟩
    split at h
    · obtain rfl := Option.some.inj h
      exact ⟨0, by decide⟩
    split at h
    · rename_i hnumber
      obtain rfl := Option.some.inj h
      exact .of_closed
        ((Complete.of_closed (flat_of_isScaleNumber hnumber)).enclosed (n := 0) (by decide))
    · cases h

theorem complete_of_fraction? {num den : String} (h : fraction? num den = some v) :
    Complete v := by
  obtain ⟨n, -, h⟩ := Option.bind_eq_some_iff.mp h
  obtain ⟨d, -, h⟩ := Option.bind_eq_some_iff.mp h
  split at h
  · cases h
  obtain rfl := Option.some.inj h
  have hinner : Flat (Text.ofNat n ++ "/" ++ Text.ofNat d) :=
    ((flat_ofNat n).append (by decide)).append (flat_ofNat d)
  have hcalc : Encloses 0 "calc(" " * 100%)" := by decide
  have hclosed := (Complete.of_closed hinner).enclosed hcalc
  simp only [← String.append_assoc] at hclosed
  exact .of_closed hclosed

theorem complete_of_size? {axis : Axis} (hs : Clean s) (h : size? axis s = some v) :
    Complete v := by
  rw [size?] at h
  split at h
  · rename_i w hw
    obtain rfl := Option.some.inj h
    refine complete_of_lookup? ?_ hw
    cases axis <;> decide
  split at h
  · rename_i w hw
    obtain rfl := Option.some.inj h
    exact hs.arbitrary? hw
  split at h
  · exact complete_of_fraction? h
  · exact complete_of_spacing? hs h

theorem complete_negate {negative : Bool} (h : Complete v) : Complete (negate negative v) := by
  rw [negate]
  split
  · exact h
  · exact .of_closed (h.enclosed (n := 0) (by decide))

/-- Whether the names of a theme have no brackets. -/
def Names.Flat (names : Names) : Prop := ∀ n ∈ names.colors ++ names.radii, Style.Flat n

variable {names : Names}

/-- What holds of all colors of the palette. -/
theorem of_paletteColor? (P : String → Prop) (hnamed : ∀ e ∈ Palette.named, P e.2)
    (hfamilies : ∀ f ∈ Palette.families, ∀ color ∈ f.2, P color)
    (h : Palette.color? s = some v) : P v := by
  rw [Palette.color?] at h
  split at h
  · rename_i color hcolor
    obtain rfl := Option.some.inj h
    obtain ⟨e, he, rfl⟩ := Option.map_eq_some_iff.mp hcolor
    exact hnamed e (List.mem_of_find?_eq_some he)
  · obtain ⟨⟨family, shade⟩, -, h⟩ := Option.bind_eq_some_iff.mp h
    obtain ⟨⟨_, colors⟩, hcolors, h⟩ := Option.bind_eq_some_iff.mp h
    obtain ⟨⟨_, color⟩, hcolor, h⟩ := Option.bind_eq_some_iff.mp h
    obtain rfl : color = v := Option.some.inj h
    exact hfamilies _ (List.mem_of_find?_eq_some hcolors) _
      (List.of_mem_zip (List.mem_of_find?_eq_some hcolor)).2

theorem flat_of_paletteColor? (h : Palette.color? s = some v) : Style.Flat v :=
  of_paletteColor? Style.Flat (by decide) (by decide) h

theorem complete_of_plainColor? (hnames : names.Flat)
    (hs : ∀ w, arbitrary? s = some w → Complete w) (h : plainColor? names s = some v) :
    Complete v := by
  rw [plainColor?] at h
  split at h
  · rename_i w hw
    obtain rfl := Option.some.inj h
    exact hs _ hw
  split at h
  · rename_i w hw
    obtain rfl := Option.some.inj h
    exact .of_closed (flat_of_paletteColor? hw)
  split at h
  · rename_i hname
    obtain rfl := Option.some.inj h
    have hflat : Style.Flat s :=
      hnames s (List.mem_append_left _ (List.contains_iff_mem.mp hname))
    exact .of_closed ((Complete.of_closed hflat).enclosed (n := 0) (by decide))
  · cases h

theorem complete_of_color? (hnames : names.Flat) (hs : Clean s) (h : color? names s = some v) :
    Complete v := by
  rw [color?] at h
  split at h
  rename_i base opacity hsplit
  obtain ⟨color, hcolor, h⟩ := Option.bind_eq_some_iff.mp h
  have hplain : Complete color := by
    refine complete_of_plainColor? hnames (fun w hw => hs.arbitrary?_splitOpacity ?_) hcolor
    rwa [hsplit]
  split at h
  · obtain rfl := Option.some.inj h
    exact hplain
  · obtain ⟨percent, -, h⟩ := Option.bind_eq_some_iff.mp h
    split at h
    · cases h
    obtain rfl := Option.some.inj h
    have hinner : Complete (color ++ " " ++ Text.ofNat percent) :=
      (hplain.append ⟨0, by decide⟩).append (.of_closed (flat_ofNat percent))
    have hmix : Encloses 0 "color-mix(in oklab, " "%, transparent)" := by decide
    have hclosed := hinner.enclosed hmix
    simp only [← String.append_assoc] at hclosed
    exact .of_closed hclosed

end Value

end LivePreview.Style
