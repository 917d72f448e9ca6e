import LivePreview.Proofs.NegatedKeywords
/-!
# The classes that set a property

Some properties stand for others: `padding` for the padding of each side, `border-radius` for that
of each corner (`longhands`). Which classes set such a property, or one of those that it stands for,
is told by a chart with the forms of these classes (`chart`): a form is a whole word, or a front
with whatever value behind it. No family sets one of the properties by a class that is not in the
chart (`charted_of_utility?`), so what is to be known of all these classes can be computed from the
chart.
-/
namespace LivePreview.Style.Utility

open Value

/-! ## The forms of classes -/

/-- The form of a class: one word, or all that begins with a front. -/
inductive Form where
  | word (text : String)
  | front (text : String)
deriving DecidableEq, Repr

/-- Whether a class has a form. -/
def Form.Fits : Form → String → Prop
  | .word text, c => c = text
  | .front text, c => ∃ rest, c = text ++ rest

theorem startsWith_iff {front c : String} :
    Text.startsWith front c = true ↔ ∃ rest, c = front ++ rest := by
  simp only [Text.startsWith, Option.isSome_iff_exists, Text.after?_eq_some]

instance (f : Form) (c : String) : Decidable (f.Fits c) :=
  match f with
  | .word text => inferInstanceAs (Decidable (c = text))
  | .front text => decidable_of_iff (Text.startsWith text c = true) startsWith_iff

/-! ## The properties with longhands -/

/-- The sides and the axes of a box. -/
def boxSides : List String :=
  ["top", "right", "bottom", "left", "inline", "block", "inline-start", "inline-end", "block-start",
   "block-end"]

/-- The corners of a box. -/
def boxCorners : List String :=
  ["top-left", "top-right", "bottom-right", "bottom-left", "start-start", "start-end", "end-start",
   "end-end"]

/-- The properties that stand for others, with those that they stand for: their longhands. -/
def longhands : List (String × List String) :=
  [("overflow", ["overflow-x", "overflow-y", "overflow-inline", "overflow-block"]),
   ("gap", ["column-gap", "row-gap"]),
   ("padding", boxSides.map ("padding-" ++ ·)),
   ("margin", boxSides.map ("margin-" ++ ·)),
   ("border-width", boxSides.map ("border-" ++ · ++ "-width")),
   ("border-radius", boxCorners.map ("border-" ++ · ++ "-radius"))]

/-- The properties that the chart is about. -/
def chartedProperties : List String := longhands.flatMap fun e => e.1 :: e.2

/-- What a value that is a length begins with, if it is no word. -/
def valueStarts : List String := ["[", "(", "0", "1", "2", "3", "4", "5", "6", "7", "8", "9"]

/-- The words for a radius; without one there is the usual radius. -/
def radiusWords : List String :=
  ["", "none", "xs", "sm", "md", "lg", "xl", "2xl", "3xl", "4xl", "full"]

/-- The forms of the classes with a word, alone or with a value behind a dash. -/
def wordForms (word : String) : List Form := [.word word, .front (word ++ "-")]

/-- The corners with the sides and corners of classes that set them. -/
def cornerSides : List (String × List String) :=
  [("border-top-left-radius", ["t", "l", "tl"]), ("border-top-right-radius", ["t", "r", "tr"]),
   ("border-bottom-right-radius", ["r", "b", "br"]),
   ("border-bottom-left-radius", ["b", "l", "bl"])]

/-- The forms of the classes that set a property with longhands. -/
def shorthandRows : List (String × List Form) :=
  [("overflow",
    [.front "line-clamp-", .word "overflow-auto", .word "overflow-hidden", .word "overflow-clip",
     .word "overflow-visible", .word "overflow-scroll", .word "sr-only", .word "truncate"]),
   ("gap", .word "gap-px" :: valueStarts.map fun s => .front ("gap-" ++ s)),
   ("padding", [.front "p-", .word "sr-only"]),
   ("margin", [.front "m-", .front "-m-", .word "sr-only"]),
   ("border-width",
    .word "border" :: .word "border-" :: .word "sr-only" ::
      ("+" :: valueStarts).map fun s => .front ("border-" ++ s)),
   ("border-radius",
    .word "rounded" :: .front "rounded-[" :: .front "rounded-(" ::
      radiusWords.map fun w => .word ("rounded-" ++ w))]

/-- The forms of the classes that set one side of a box, one axis or one corner. -/
def longhandRows : List (String × List Form) :=
  List.flatten
    [[("overflow-x", [.front "overflow-x-"]), ("overflow-y", [.front "overflow-y-"]),
      ("column-gap", [.front "gap-x-"]), ("row-gap", [.front "gap-y-"]),
      ("margin-inline-end", [.front "space-x-"]), ("margin-block-end", [.front "space-y-"])],
     (paddings.drop 1).map fun e => (e.2, [.front (e.1 ++ "-")]),
     (margins.drop 1).map fun e => (e.2, [.front (e.1 ++ "-"), .front ("-" ++ e.1 ++ "-")]),
     borderSides.map fun e => (e.2, wordForms ("border-" ++ e.1)),
     cornerSides.map fun e => (e.1, e.2.flatMap fun side => wordForms ("rounded-" ++ side))]

/-- The chart: each property with the forms of the classes that set it. -/
def chart : List (String × List Form) := shorthandRows ++ longhandRows

/-- The forms of the classes that set a property; there may be none. -/
def formsOf (p : String) : List Form := ((chart.find? fun row => row.1 = p).map (·.2)).getD []

/-- Whether a class is in the chart if the property is one that the chart is about. -/
def Charted (p c : String) : Prop := p ∈ chartedProperties → ∃ f ∈ formsOf p, f.Fits c

instance (p c : String) : Decidable (Charted p c) := inferInstanceAs (Decidable (_ → _))

/-- Whether a family sets the properties of the chart only by classes of the chart. -/
def Charts (family : String → Option Utility) : Prop :=
  ∀ {c u}, family c = some u → ∀ d ∈ u.declarations, Charted d.1 c

variable {c p v front rest value word : String} {names : Names} {u : Utility}
  {words : List String}

theorem mem_chartedProperties {parts : List String} (hparts : (word, parts) ∈ longhands)
    (hp : p ∈ word :: parts) : p ∈ chartedProperties :=
  List.mem_flatMap.mpr ⟨_, hparts, hp⟩

theorem charted_of_not_mem (h : p ∉ chartedProperties) : Charted p c := fun hp => absurd hp h

theorem charted_word (h : .word c ∈ formsOf p) : Charted p c := fun _ => ⟨_, h, rfl⟩

theorem charted_front (h : .front front ∈ formsOf p) (rest : String) : Charted p (front ++ rest) :=
  fun _ => ⟨_, h, rest, rfl⟩

theorem charted_wordForms (h : ∀ f ∈ wordForms word, f ∈ formsOf p)
    (hc : c = word ∨ ∃ value, c = word ++ "-" ++ value) : Charted p c := by
  rcases hc with rfl | ⟨value, rfl⟩
  · exact charted_word (h _ (by simp [wordForms]))
  · exact charted_front (h _ (by simp [wordForms])) value

/-- Variables are no properties of the chart. -/
theorem variable_not_mem (name : String) : "--tw-" ++ name ∉ chartedProperties := by
  intro hmem
  have happart : ∀ p ∈ chartedProperties, apart "--tw-" p = true := by decide
  exact append_ne_append (happart _ hmem) name "" String.append_empty.symm

theorem charted_one (h : Charted p c) : ∀ d ∈ (one p v).declarations, Charted d.1 c := by
  simpa [one, ofList] using h

theorem charted_cons {declarations : List Declaration} (hp : Charted p c)
    (h : ∀ d ∈ (ofList declarations).declarations, Charted d.1 c) :
    ∀ d ∈ (ofList ((p, v) :: declarations)).declarations, Charted d.1 c :=
  List.forall_mem_cons.mpr ⟨hp, h⟩

theorem charted_same {properties : List String} (h : ∀ p ∈ properties, Charted p c) :
    ∀ d ∈ (same properties v).declarations, Charted d.1 c := by
  intro d hd
  obtain ⟨p, hp, rfl⟩ := List.mem_map.mp hd
  exact h p hp

theorem charted_of_map_one {value? : Option String} (hp : Charted p c)
    (h : value?.map (one p) = some u) : ∀ d ∈ u.declarations, Charted d.1 c := by
  obtain ⟨v, -, rfl⟩ := Option.map_eq_some_iff.mp h
  exact charted_one hp

theorem charts_inTable? {table : List (String × List Declaration)}
    (htable : ∀ e ∈ table, ∀ d ∈ e.2, Charted d.1 e.1) : Charts (inTable? table) := by
  intro c u h
  obtain ⟨declarations, hmem, rfl⟩ := exists_of_inTable? h
  exact htable _ hmem

/-- A table may be without properties of the chart. -/
theorem charted_of_inTable? {table : List (String × List Declaration)}
    (htable : ∀ e ∈ table, ∀ d ∈ e.2, d.1 ∉ chartedProperties) (h : inTable? table value = some u) :
    ∀ d ∈ u.declarations, Charted d.1 c := by
  obtain ⟨declarations, hmem, rfl⟩ := exists_of_inTable? h
  exact fun d hd => charted_of_not_mem (htable _ hmem d hd)

/-! ## What values begin with -/

theorem beginsIn_of_opens (h : Opens value) : BeginsIn ["[", "("] value := by
  obtain ⟨b, r, hvalue, hb⟩ := h
  have htext : value = String.ofList [b] ++ String.ofList r := by
    rw [← String.toList_inj]
    simpa using hvalue
  rw [htext]
  refine beginsIn_append ?_ _
  rcases (by simpa [opensValue] using hb : b = '[' ∨ b = '(') with rfl | rfl <;> decide

theorem beginsIn_of_digit {b : Char} {r : List Char} (hvalue : value.toList = b :: r)
    (hb : Text.isAsciiDigit b = true) : BeginsIn valueStarts value := by
  have hdigits : ∀ n < 58, 48 ≤ n → String.ofList [Char.ofNat n] ∈ valueStarts := by decide
  obtain ⟨hlow, hhigh⟩ := Text.isAsciiDigit_iff.mp hb
  have hfront := hdigits b.toNat (by omega) hlow
  rw [Char.ofNat_toNat] at hfront
  have htext : value = String.ofList [b] ++ String.ofList r := by
    rw [← String.toList_inj]
    simpa using hvalue
  rw [htext]
  exact beginsIn_append hfront _

theorem BeginsIn.mono {more : List String} (h : BeginsIn words value) (hsub : words ⊆ more) :
    BeginsIn more value := by
  obtain ⟨front, hfront, hvalue⟩ := h
  exact ⟨front, hsub hfront, hvalue⟩

theorem beginsIn_of_isDigits (h : Text.isDigits value.toList = true) :
    BeginsIn valueStarts value := by
  obtain ⟨hne, hall⟩ : value.toList ≠ [] ∧ ∀ b ∈ value.toList, Text.isAsciiDigit b = true := by
    simpa [Text.isDigits] using h
  obtain ⟨b, r, hvalue⟩ := List.exists_cons_of_ne_nil hne
  exact beginsIn_of_digit hvalue (hall b (hvalue ▸ List.mem_cons_self))

theorem beginsIn_of_isScaleNumber (h : isScaleNumber value = true) :
    BeginsIn valueStarts value := by
  rw [isScaleNumber] at h
  split at h
  · rename_i whole fraction hcut
    obtain ⟨front, hfront, rest, rfl⟩ := beginsIn_of_isDigits (Bool.and_eq_true_iff.mp h).1
    rw [Text.eq_append_of_cut? hcut]
    simp only [String.append_assoc]
    exact beginsIn_append hfront _
  · exact beginsIn_of_isDigits h

/-- A distance is a pixel, or it begins with a digit or a bracket. -/
theorem eq_or_beginsIn_of_spacing? (h : spacing? value = some v) :
    value = "px" ∨ BeginsIn valueStarts value := by
  rw [spacing?] at h
  split at h
  · rename_i w hw
    exact .inr ((beginsIn_of_opens (opens_of_arbitrary? hw)).mono (by decide))
  split at h
  · exact .inl ‹_›
  split at h
  · rename_i hzero
    exact .inr ⟨"0", by decide, "", by simpa using hzero⟩
  split at h
  · exact .inr (beginsIn_of_isScaleNumber ‹_›)
  · cases h

theorem beginsIn_of_word? {n : Nat} (h : Text.word? value = some n) :
    BeginsIn ("+" :: valueStarts) value := by
  have hdigits : ∀ {ds : List Char}, Text.wordOfDigits? ds = some n → Text.isDigits ds = true := by
    intro ds hds
    rw [Text.wordOfDigits?] at hds
    split at hds
    · assumption
    · cases hds
  rw [Text.word?] at h
  split at h
  · rename_i r hr
    refine ⟨"+", List.mem_cons_self, String.ofList r, ?_⟩
    rw [← String.toList_inj]
    simpa using hr
  · exact (beginsIn_of_isDigits (hdigits h)).mono (List.subset_cons_self ..)

/-- A width is not there, or it begins with a digit, a plus sign or a bracket. -/
theorem eq_or_beginsIn_of_lineWidth? (h : lineWidth? value = some v) :
    value = "" ∨ BeginsIn ("+" :: valueStarts) value := by
  rw [lineWidth?] at h
  split at h
  · exact .inl ‹_›
  split at h
  · cases h
  · exact .inr ((beginsIn_of_opens (opens_of_arbitrary? h)).mono (by decide))
  · obtain ⟨n, hn, -⟩ := Option.map_eq_some_iff.mp h
    exact .inr (beginsIn_of_word? hn)

/-- A radius is one of the words, or it begins with a bracket. -/
theorem mem_or_beginsIn_of_radiusValue? (hnames : ∀ r ∈ names.radii, r ∈ radiusWords)
    (h : radiusValue? names value = some v) :
    value ∈ radiusWords ∨ BeginsIn ["[", "("] value := by
  rw [radiusValue?] at h
  split at h
  · rename_i w hw
    exact .inr (beginsIn_of_opens (opens_of_arbitrary? hw))
  split at h
  · rename_i hmem
    exact .inl (hnames value (List.contains_iff_mem.mp hmem))
  · exact .inl (of_find?_map (fun s _ => s ∈ radiusWords) h (by decide))

theorem charted_append {front : String} {fronts : List String} (h : BeginsIn fronts value)
    (hforms : ∀ s ∈ fronts, .front (front ++ s) ∈ formsOf p) : Charted p (front ++ value) := by
  obtain ⟨s, hs, rest, rfl⟩ := h
  rw [← String.append_assoc]
  exact charted_front (hforms s hs) rest

namespace Family

/-! ## Layout -/

theorem charts_display : Charts display? := charts_inTable? (by decide)

theorem charts_inset : Charts inset? := by
  intro c u h
  rw [inset?] at h
  split at h
  obtain ⟨⟨edges, value⟩, hcut, h⟩ := Option.bind_eq_some_iff.mp h
  obtain ⟨size, -, h⟩ := Option.bind_eq_some_iff.mp h
  obtain rfl := Option.some.inj h
  obtain ⟨-, hedges, -⟩ := exists_front_of_cutPrefix?
    (fun _ edges => ∀ p ∈ edges, p ∉ chartedProperties) hcut (by decide)
  exact charted_same fun p hp => charted_of_not_mem (hedges p hp)

theorem charts_zIndex : Charts zIndex? := by
  intro c u h
  have hp : Charted "z-index" c := charted_of_not_mem (by decide)
  obtain ⟨value, -, h⟩ := Option.bind_eq_some_iff.mp h
  split at h
  · obtain rfl := Option.some.inj h
    exact charted_one hp
  split at h
  · obtain rfl := Option.some.inj h
    exact charted_one hp
  · obtain ⟨n, -, h⟩ := Option.bind_eq_some_iff.mp h
    obtain rfl := Option.some.inj h
    exact charted_one hp

theorem charts_overflow : Charts overflow? := by
  intro c u h
  obtain ⟨⟨property, value⟩, hcut, h⟩ := Option.bind_eq_some_iff.mp h
  dsimp only at h
  split at h
  · rename_i hkeyword
    obtain rfl := Option.some.inj h
    obtain ⟨front, hfront, rfl⟩ := exists_front_of_cutPrefix?
      (fun front p => ∀ w ∈ ["auto", "hidden", "clip", "visible", "scroll"],
        Charted p (front ++ w)) hcut (by decide)
    exact charted_one (hfront value (List.contains_iff_mem.mp hkeyword))
  · cases h

theorem charts_appearance : Charts appearance? := charts_inTable? (by decide)

theorem charts_flex : Charts flex? := by
  intro c u h
  rw [flex?] at h
  split at h
  · rename_i w hw
    obtain rfl := Option.some.inj h
    exact charts_inTable? (by decide) hw
  split at h
  · exact charted_of_map_one (charted_of_not_mem (by decide)) h
  split at h
  · exact charted_of_map_one (charted_of_not_mem (by decide)) h
  · cases h

theorem charts_grid : Charts grid? := by
  intro c u h
  obtain ⟨⟨⟨property, isSpan⟩, value⟩, hcut, h⟩ := Option.bind_eq_some_iff.mp h
  obtain ⟨-, hp, -⟩ := exists_front_of_cutPrefix?
    (fun _ e => e.1 ∉ chartedProperties) hcut (by decide)
  exact charted_of_map_one (charted_of_not_mem hp) h

theorem charts_align : Charts align? := by
  intro c u h
  obtain ⟨⟨property, value⟩, hcut, h⟩ := Option.bind_eq_some_iff.mp h
  obtain ⟨-, hp, -⟩ := exists_front_of_cutPrefix?
    (fun _ p => p ∉ chartedProperties) hcut (by decide)
  exact charted_of_map_one (charted_of_not_mem hp) h

/-! ## Spacing and sizes -/

theorem charts_gap : Charts gap? := by
  intro c u h
  obtain ⟨⟨property, value⟩, hcut, h⟩ := Option.bind_eq_some_iff.mp h
  obtain ⟨v, hv, rfl⟩ := Option.map_eq_some_iff.mp h
  obtain ⟨front, ⟨hpixel, hstarts⟩, rfl⟩ := exists_front_of_cutPrefix?
    (fun front p => Charted p (front ++ "px") ∧
      ((∀ s ∈ valueStarts, .front (front ++ s) ∈ formsOf p) ∨ .front front ∈ formsOf p))
    hcut (by decide)
  rcases eq_or_beginsIn_of_spacing? hv with rfl | hvalue
  · exact charted_one hpixel
  · -- only a gap on both axes has to tell its value from the name of an axis
    refine charted_one ?_
    rcases hstarts with hstarts | hfront
    · exact charted_append hvalue hstarts
    · exact charted_front hfront value

theorem charts_between : Charts between? := by
  intro c u h
  obtain ⟨⟨property, value⟩, hcut, h⟩ := Option.bind_eq_some_iff.mp h
  obtain ⟨v, -, h⟩ := Option.bind_eq_some_iff.mp h
  obtain rfl := Option.some.inj h
  obtain ⟨front, hfront, rfl⟩ := exists_front_of_cutPrefix?
    (fun front p => .front front ∈ formsOf p) hcut (by decide)
  simpa using charted_front hfront value

theorem charts_padding : Charts padding? := by
  intro c u h
  rw [padding?] at h
  split at h
  rename_i negative rest hsign
  obtain ⟨⟨key, value⟩, hcut, h⟩ := Option.bind_eq_some_iff.mp h
  have hclass : c = (if negative then "-" else "") ++ key ++ "-" ++ value := by
    rw [eq_of_sign hsign, Text.eq_append_of_cut? hcut]
    simp only [String.append_assoc]
  dsimp only at h
  split at h
  · rename_i property hlookup
    obtain ⟨hplain, hnegated⟩ :
        .front (key ++ "-") ∈ formsOf property ∧ .front ("-" ++ key ++ "-") ∈ formsOf property :=
      of_find?_map (fun k p => .front (k ++ "-") ∈ formsOf p ∧ .front ("-" ++ k ++ "-") ∈ formsOf p)
        hlookup (by decide)
    have hp : Charted property c := by
      rw [hclass]
      cases negative with
      | false => simpa using charted_front hplain value
      | true => exact charted_front hnegated value
    split at h
    · split at h
      · cases h
      · obtain rfl := Option.some.inj h
        exact charted_one hp
    · obtain ⟨v, -, h⟩ := Option.bind_eq_some_iff.mp h
      obtain rfl := Option.some.inj h
      exact charted_one hp
  · obtain ⟨property, hlookup, h⟩ := Option.bind_eq_some_iff.mp h
    have hplain : .front (key ++ "-") ∈ formsOf property :=
      of_find?_map (fun k p => .front (k ++ "-") ∈ formsOf p) hlookup (by decide)
    -- there is no padding below zero
    cases negative with
    | true => cases h
    | false =>
      refine charted_of_map_one ?_ h
      rw [hclass]
      simpa using charted_front hplain value

theorem charts_sizing : Charts sizing? := by
  intro c u h
  rw [sizing?] at h
  split at h
  · obtain ⟨v, -, rfl⟩ := Option.map_eq_some_iff.mp h
    have hsizes : ∀ p ∈ ["width", "height"], p ∉ chartedProperties := by decide
    exact charted_same fun p hp => charted_of_not_mem (hsizes p hp)
  split at h
  · have hp : Charted "max-width" c := charted_of_not_mem (by decide)
    split at h
    · obtain rfl := Option.some.inj h
      exact charted_one hp
    · exact charted_of_map_one hp h
  · obtain ⟨⟨⟨property, axis⟩, value⟩, hcut, h⟩ := Option.bind_eq_some_iff.mp h
    obtain ⟨-, hp, -⟩ := exists_front_of_cutPrefix?
      (fun _ e => e.1 ∉ chartedProperties) hcut (by decide)
    exact charted_of_map_one (charted_of_not_mem hp) h

/-! ## Text -/

/-- A class that clamps lines hides what overflows. -/
theorem charted_of_lineClamp? (h : lineClamp? value = some u) :
    ∀ d ∈ u.declarations, Charted d.1 ("line-clamp-" ++ value) := by
  have hoverflow : Charted "overflow" ("line-clamp-" ++ value) :=
    charted_front (by decide) value
  have hrest : ∀ p ∈ ["display", "-webkit-box-orient", "-webkit-line-clamp"],
      p ∉ chartedProperties := by decide
  have hall : ∀ p ∈ ["overflow", "display", "-webkit-box-orient", "-webkit-line-clamp"],
      Charted p ("line-clamp-" ++ value) :=
    List.forall_mem_cons.mpr ⟨hoverflow, fun p hp => charted_of_not_mem (hrest p hp)⟩
  have hproperties : ∀ d ∈ u.declarations,
      d.1 ∈ ["overflow", "display", "-webkit-box-orient", "-webkit-line-clamp"] := by
    rw [lineClamp?] at h
    split at h
    · obtain rfl := Option.some.inj h
      simp [ofList]
    · obtain ⟨n, -, rfl⟩ := Option.map_eq_some_iff.mp h
      simp [ofList]
  exact fun d hd => hall d.1 (hproperties d hd)

theorem charted_of_fontSize? (h : fontSize? value = some u) :
    ∀ d ∈ u.declarations, Charted d.1 c := by
  rw [fontSize?] at h
  split at h
  · rename_i w hw
    obtain rfl := Option.some.inj h
    exact charted_of_inTable? (by decide) hw
  split at h
  · exact charted_of_map_one (charted_of_not_mem (by decide)) h
  · cases h

theorem charts_typography : Charts typography? := by
  intro c u h
  rw [typography?] at h
  split at h
  · rename_i w hw
    obtain rfl := Option.some.inj h
    exact charts_inTable? (by decide) hw
  · -- each prefix comes with a reader of its own; only the first one sets a property of the chart
    obtain ⟨⟨read, value⟩, hcut, hu⟩ := Option.bind_eq_some_iff.mp h
    obtain ⟨front, hread, rfl⟩ := exists_front_of_cutPrefix?
      (fun front read => ∀ v u, read v = some u → ∀ d ∈ u.declarations, Charted d.1 (front ++ v))
      hcut (by
        simp only [List.forall_mem_cons]
        exact ⟨fun _ _ => charted_of_lineClamp?, fun _ _ => charted_of_fontSize?,
          fun _ _ => charted_of_map_one (charted_of_not_mem (by decide)),
          fun _ _ => charted_of_map_one (charted_of_not_mem (by decide)),
          fun _ _ => charted_of_map_one (charted_of_not_mem (by decide)), by simp⟩)
    exact hread value u hu

/-! ## Surfaces -/

theorem charts_color : Charts (color? names) := by
  intro c u h
  obtain ⟨⟨property, value⟩, hcut, h⟩ := Option.bind_eq_some_iff.mp h
  obtain ⟨-, hp, -⟩ := exists_front_of_cutPrefix?
    (fun _ p => p ∉ chartedProperties) hcut (by decide)
  exact charted_of_map_one (charted_of_not_mem hp) h

/-- Behind the word of a family, a side is named alone or in front of a dash. -/
theorem class_of_side (htail : tail? word c = some rest) (hside : front ≠ "")
    (hrest : rest = front ∧ value = "" ∨ rest = front ++ "-" ++ value) :
    c = word ++ "-" ++ front ∨ ∃ more, c = word ++ "-" ++ front ++ "-" ++ more := by
  rcases eq_of_tail? htail with ⟨-, rfl⟩ | rfl
  · rcases hrest with ⟨hempty, -⟩ | hempty
    · exact absurd hempty.symm hside
    · rw [← String.toList_inj] at hempty
      simp at hempty
  · rcases hrest with ⟨rfl, -⟩ | rfl
    · exact .inl rfl
    · exact .inr ⟨value, by simp only [String.append_assoc]⟩

theorem charts_border : Charts (border? names) := by
  intro c u h
  have hstyle : Charted "border-style" c := charted_of_not_mem (by decide)
  obtain ⟨rest, htail, h⟩ := Option.bind_eq_some_iff.mp h
  split at h
  · obtain rfl := Option.some.inj h
    exact charted_one hstyle
  split at h
  rename_i side value hsplit
  split at h
  · rename_i width hwidth
    obtain rfl := Option.some.inj h
    refine charted_cons hstyle (charted_one ?_)
    rcases eq_of_splitSide hsplit with ⟨rfl, rfl⟩ | ⟨s, p, hp, rfl, hrest⟩
    · -- the width is that of all sides
      rcases eq_of_tail? htail with ⟨rfl, -⟩ | rfl
      · exact charted_word (by decide)
      · rcases eq_or_beginsIn_of_lineWidth? hwidth with rfl | hvalue
        · exact charted_word (by decide)
        · exact charted_append hvalue (by decide)
    · obtain ⟨hs, hforms⟩ : s ≠ "" ∧ ∀ f ∈ wordForms ("border" ++ "-" ++ s), f ∈ formsOf p :=
        of_find?_map (fun s p => s ≠ "" ∧ ∀ f ∈ wordForms ("border" ++ "-" ++ s), f ∈ formsOf p)
          hp (by decide)
      exact charted_wordForms hforms (class_of_side htail hs hrest)
  split at h
  · cases h
  · exact charted_of_map_one (charted_of_not_mem (by decide)) h

theorem charts_radius (hnames : ∀ r ∈ names.radii, r ∈ radiusWords) : Charts (radius? names) := by
  intro c u h
  obtain ⟨rest, htail, h⟩ := Option.bind_eq_some_iff.mp h
  split at h
  rename_i corners value hsplit
  obtain ⟨r, hradius, h⟩ := Option.bind_eq_some_iff.mp h
  obtain rfl := Option.some.inj h
  refine charted_same ?_
  rcases eq_of_splitSide hsplit with ⟨rfl, rfl⟩ | ⟨s, properties, hproperties, rfl, hrest⟩
  · -- the radius is that of all corners
    refine List.forall_mem_singleton.mpr ?_
    rcases eq_of_tail? htail with ⟨rfl, -⟩ | rfl
    · exact charted_word (by decide)
    · rcases mem_or_beginsIn_of_radiusValue? hnames hradius with hvalue | hvalue
      · have hwords : ∀ w ∈ radiusWords,
            .word ("rounded" ++ "-" ++ w) ∈ formsOf "border-radius" := by decide
        exact charted_word (hwords value hvalue)
      · exact charted_append hvalue (by decide)
  · obtain ⟨hs, hforms⟩ : s ≠ "" ∧
        ∀ p ∈ properties, ∀ f ∈ wordForms ("rounded" ++ "-" ++ s), f ∈ formsOf p :=
      of_find?_map (fun s properties => s ≠ "" ∧
        ∀ p ∈ properties, ∀ f ∈ wordForms ("rounded" ++ "-" ++ s), f ∈ formsOf p)
        hproperties (by decide)
    exact fun p hp => charted_wordForms (hforms p hp) (class_of_side htail hs hrest)

theorem charts_ring : Charts (ring? names) := by
  intro c u h
  obtain ⟨rest, -, h⟩ := Option.bind_eq_some_iff.mp h
  dsimp only at h
  split at h
  · obtain rfl := Option.some.inj h
    exact charted_one (charted_of_not_mem (by decide))
  · obtain ⟨value, -, h⟩ := Option.bind_eq_some_iff.mp h
    exact charted_of_map_one (charted_of_not_mem (by decide)) h

theorem charts_shadow : Charts shadow? := fun h =>
  charted_of_map_one (charted_of_not_mem (by decide)) h

theorem charts_opacity : Charts opacity? := by
  intro c u h
  have hp : Charted "opacity" c := charted_of_not_mem (by decide)
  obtain ⟨value, -, h⟩ := Option.bind_eq_some_iff.mp h
  split at h
  · obtain rfl := Option.some.inj h
    exact charted_one hp
  · obtain ⟨n, -, h⟩ := Option.bind_eq_some_iff.mp h
    split at h
    · cases h
    · obtain rfl := Option.some.inj h
      exact charted_one hp

theorem charts_interaction : Charts interaction? := by
  intro c u h
  rw [interaction?] at h
  split at h
  · split at h
    · obtain rfl := Option.some.inj h
      exact charted_one (charted_of_not_mem (by decide))
    · cases h
  split at h
  · split at h
    · obtain rfl := Option.some.inj h
      exact charted_one (charted_of_not_mem (by decide))
    · cases h
  · exact charts_inTable? (by decide) h

theorem charts_outline : Charts (outline? names) := by
  intro c u h
  have hstyle : Charted "outline-style" c := charted_of_not_mem (by decide)
  have hwidth : Charted "outline-width" c := charted_of_not_mem (by decide)
  obtain ⟨rest, -, h⟩ := Option.bind_eq_some_iff.mp h
  split at h
  · obtain rfl := Option.some.inj h
    exact charted_cons hstyle (charted_one hwidth)
  obtain ⟨value, -, h⟩ := Option.bind_eq_some_iff.mp h
  split at h
  · obtain ⟨n, -, rfl⟩ := Option.map_eq_some_iff.mp h
    exact charted_one (charted_of_not_mem (by decide))
  split at h
  · obtain rfl := Option.some.inj h
    exact charted_cons hstyle (charted_one hwidth)
  · exact charted_of_map_one (charted_of_not_mem (by decide)) h

theorem charts_drawing : Charts (drawing? names) := by
  intro c u h
  rw [drawing?] at h
  split at h
  · exact charted_of_map_one (charted_of_not_mem (by decide)) h
  split at h
  · split at h
    · obtain rfl := Option.some.inj h
      exact charted_one (charted_of_not_mem (by decide))
    · exact charted_of_map_one (charted_of_not_mem (by decide)) h
  · cases h

/-! ## Motion -/

theorem charted_onAxes {initial : String} {axes : List String} (hp : p ∉ chartedProperties) :
    ∀ d ∈ (onAxes p initial axes v).declarations, Charted d.1 c := by
  intro d hd
  rcases List.mem_append.mp hd with hd | hd
  · obtain ⟨axis, -, rfl⟩ := List.mem_map.mp hd
    simp only [String.append_assoc]
    exact charted_of_not_mem (variable_not_mem _)
  · obtain rfl := List.mem_singleton.mp hd
    exact charted_of_not_mem hp

theorem charts_transform : Charts transform? := by
  intro c u h
  rw [transform?] at h
  split at h
  rename_i negative rest hsign
  split at h
  · split at h
    obtain ⟨distance, -, h⟩ := Option.bind_eq_some_iff.mp h
    obtain rfl := Option.some.inj h
    exact charted_onAxes (by decide)
  split at h
  · split at h
    obtain ⟨factor, -, h⟩ := Option.bind_eq_some_iff.mp h
    obtain rfl := Option.some.inj h
    exact charted_onAxes (by decide)
  split at h
  · obtain ⟨angle, -, rfl⟩ := Option.map_eq_some_iff.mp h
    exact charted_one (charted_of_not_mem (by decide))
  · exact charted_of_inTable? (by decide) h

theorem charts_filter : Charts filter? := by
  intro c u h
  obtain ⟨⟨property, rest⟩, hcut, h⟩ := Option.bind_eq_some_iff.mp h
  obtain ⟨-, hp, -⟩ := exists_front_of_cutPrefix?
    (fun _ p => p ∉ chartedProperties) hcut (by decide)
  dsimp only at h
  split at h
  · obtain ⟨value, -, h⟩ := Option.bind_eq_some_iff.mp h
    obtain ⟨radius, -, h⟩ := Option.bind_eq_some_iff.mp h
    obtain rfl := Option.some.inj h
    exact charted_one (charted_of_not_mem hp)
  · obtain ⟨value, -, h⟩ := Option.bind_eq_some_iff.mp h
    obtain ⟨radius, -, h⟩ := Option.bind_eq_some_iff.mp h
    obtain rfl := Option.some.inj h
    exact charted_one (charted_of_not_mem hp)

theorem charts_transition : Charts transition? := by
  intro c u h
  have htiming : Charted "transition-timing-function" c := charted_of_not_mem (by decide)
  have hproperty : Charted "transition-property" c := charted_of_not_mem (by decide)
  rw [transition?] at h
  split at h
  · obtain rfl := Option.some.inj h
    exact charted_cons hproperty (charted_cons htiming
      (charted_one (charted_of_not_mem (by decide))))
  split at h
  · obtain rfl := Option.some.inj h
    exact charted_one hproperty
  split at h
  · obtain ⟨n, -, rfl⟩ := Option.map_eq_some_iff.mp h
    have hdurations : ∀ p ∈ ["--tw-duration", "transition-duration"], p ∉ chartedProperties := by
      decide
    exact charted_same fun p hp => charted_of_not_mem (hdurations p hp)
  · obtain ⟨value, -, h⟩ := Option.bind_eq_some_iff.mp h
    exact charted_of_map_one htiming h

theorem charts_animation : Charts animation? := fun h =>
  charted_of_map_one (charted_of_not_mem (by decide)) h

theorem charts_enterExit : Charts enterExit? := by
  intro c u h
  -- all of these set variables
  have hvariable : ∀ name v, ∀ d ∈ (one ("--tw-" ++ name) v).declarations, Charted d.1 c :=
    fun name v => charted_one (charted_of_not_mem (variable_not_mem name))
  rw [enterExit?] at h
  split at h
  · dsimp only at h
    split at h
    · obtain ⟨value, -, h⟩ := Option.bind_eq_some_iff.mp h
      obtain rfl := Option.some.inj h
      simp only [String.append_assoc]
      exact hvariable _ _
    · obtain ⟨amount, -, h⟩ := Option.bind_eq_some_iff.mp h
      obtain ⟨value, -, h⟩ := Option.bind_eq_some_iff.mp h
      obtain rfl := Option.some.inj h
      simp only [String.append_assoc]
      exact hvariable _ _
  · obtain ⟨⟨phase, rest⟩, -, hslide⟩ := Option.bind_eq_some_iff.mp h
    obtain ⟨side, axis, negative, distance, -, rfl, -⟩ := exists_of_slide? hslide
    simp only [String.append_assoc]
    exact hvariable _ _

theorem charts (family : Family) (hnames : ∀ r ∈ names.radii, r ∈ radiusWords) :
    Charts (family.read names) := by
  cases family with
  | display => exact charts_display
  | inset => exact charts_inset
  | zIndex => exact charts_zIndex
  | overflow => exact charts_overflow
  | appearance => exact charts_appearance
  | flex => exact charts_flex
  | grid => exact charts_grid
  | align => exact charts_align
  | gap => exact charts_gap
  | between => exact charts_between
  | padding => exact charts_padding
  | sizing => exact charts_sizing
  | typography => exact charts_typography
  | color => exact charts_color
  | border => exact charts_border
  | radius => exact charts_radius hnames
  | ring => exact charts_ring
  | shadow => exact charts_shadow
  | opacity => exact charts_opacity
  | interaction => exact charts_interaction
  | outline => exact charts_outline
  | transform => exact charts_transform
  | filter => exact charts_filter
  | transition => exact charts_transition
  | animation => exact charts_animation
  | enterExit => exact charts_enterExit
  | drawing => exact charts_drawing

end Family

/-- **Which classes set a property** that has longhands, or a longhand: only those whose form is in
the chart. -/
theorem charted_of_utility? (hnames : ∀ r ∈ names.radii, r ∈ radiusWords)
    (h : utility? names c = some u) : ∀ d ∈ u.declarations, Charted d.1 c := by
  rw [utility?, families_eq_map, List.findSome?_map] at h
  obtain ⟨family, -, hread⟩ := List.exists_of_findSome?_eq_some h
  exact Family.charts family hnames hread

end LivePreview.Style.Utility
