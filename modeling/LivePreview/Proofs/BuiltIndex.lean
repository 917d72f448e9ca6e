import LivePreview.Example.Catalog
import LivePreview.Proofs.Members
import LivePreview.Proofs.WireFormat
/-!
# An index that was built is read

The reader of an index asks for more than its records do: no id, label, path or code may be empty
(`parse_text`). The index of some files has nothing empty in it unless a file spoils it
(`filled_buildIndex_iff`). There are two ways to do that. A file may have no code; and its name may
have nothing but dashes behind the dash after the component, in which no word is found for a label
(`titleCase_eq_empty_iff`). One such file is enough for the whole document to be refused, and without
one the index is read back as it was built (`built_index_read_back`).
-/
namespace LivePreview

/-! ## What the reader asks for -/

/-- No text of an example is empty. -/
def Example.Filled (e : Example) : Prop :=
  e.id ≠ "" ∧ e.label ≠ "" ∧ e.sourcePath ≠ "" ∧ e.code ≠ ""

instance (e : Example) : Decidable e.Filled := inferInstanceAs (Decidable (_ ∧ _))

/-- No text of a component or of its examples is empty. -/
def ComponentExamples.Filled (c : ComponentExamples) : Prop :=
  c.id ≠ "" ∧ c.label ≠ "" ∧ ∀ e ∈ c.examples, e.Filled

instance (c : ComponentExamples) : Decidable c.Filled := inferInstanceAs (Decidable (_ ∧ _))

/-- No text in an index is empty. -/
def ExampleIndex.Filled (i : ExampleIndex) : Prop := ∀ c ∈ i.components, c.Filled

instance (i : ExampleIndex) : Decidable i.Filled := List.decidableBAll _ _

namespace Example

theorem isComplete_toJson (e : Example) : isComplete e.toJson = true ↔ e.Filled := by
  simp [isComplete, toJson, fieldNames, filled, Json.get?, Json.obj?, Filled]

theorem sound_toJson (e : Example) : e.toJson.sound = true := by
  simp [toJson, Json.sound, Json.soundMembers]

theorem merged_toJson (e : Example) : e.toJson.merged = e.toJson := by
  simp [toJson, Json.merged, Json.mergedMembers, Json.mergeMembers, Json.setMember]

end Example

namespace Json

variable {α : Type} {encode : α → Json}

theorem soundElements_map (h : ∀ a, (encode a).sound = true) (as : List α) :
    soundElements (as.map encode) = true := by
  induction as with
  | nil => rfl
  | cons a as ih => simp [soundElements, h, ih]

theorem mergedElements_map (h : ∀ a, (encode a).merged = encode a) (as : List α) :
    mergedElements (as.map encode) = as.map encode := by
  rw [mergedElements_eq, List.map_map]
  exact List.map_congr_left fun a _ => h a

end Json

namespace ComponentExamples

theorem isComplete_toJson (c : ComponentExamples) : isComplete c.toJson = true ↔ c.Filled := by
  have hexamples : (c.examples.map Example.toJson).all Example.isComplete = true ↔
      ∀ e ∈ c.examples, e.Filled := by
    simp [List.all_eq_true, Example.isComplete_toJson]
  rw [Filled, ← hexamples]
  simp [isComplete, toJson, Example.filled, Json.get?, Json.obj?, Json.arr?, and_assoc]

theorem sound_toJson (c : ComponentExamples) : c.toJson.sound = true := by
  simp [toJson, Json.sound, Json.soundMembers, Json.soundElements_map Example.sound_toJson]

theorem merged_toJson (c : ComponentExamples) : c.toJson.merged = c.toJson := by
  simp [toJson, Json.merged, Json.mergedMembers, Json.mergeMembers, Json.setMember,
    Json.mergedElements_map Example.merged_toJson]

end ComponentExamples

namespace ExampleIndex

theorem parse?_text (i : ExampleIndex) : Json.parse? i.text = some i.toJson := by
  have hsound : i.toJson.sound = true := by
    simp [toJson, Json.sound, Json.soundMembers,
      Json.soundElements_map ComponentExamples.sound_toJson]
  have hmerged : i.toJson.merged = i.toJson := by
    simp [toJson, Json.merged, Json.mergedMembers, Json.mergeMembers, Json.setMember,
      Json.mergedElements_map ComponentExamples.merged_toJson]
  rw [Json.parse?, text, i.fits_toJson.readDocument?_compact]
  simp [hsound, hmerged]

/-- **The document of an index** is read back if nothing in it is empty, and else it is refused. -/
theorem parse_text (i : ExampleIndex) : parse i.text =
    if i.Filled then .ok i
    else .error (.malformedIndex "malformed component or example entry") := by
  have hall : (i.components.map ComponentExamples.toJson).all ComponentExamples.isComplete = true ↔
      i.Filled := by
    simp [List.all_eq_true, ComponentExamples.isComplete_toJson, Filled]
  have hread : (i.components.map ComponentExamples.toJson).mapM ComponentExamples.ofJson? =
      some i.components :=
    Json.mapM_map_of_undone ComponentExamples.ofJson?_toJson i.components
  rw [parse, parse?_text, toJson]
  by_cases hfilled : i.Filled
  · simp [Json.get?, Json.arr?, hall.mpr hfilled, hread, hfilled]
  · have hsome := Bool.not_eq_true _ ▸ mt hall.mp hfilled
    simp [Json.get?, Json.arr?, hsome, hfilled]

end ExampleIndex

/-! ## Labels -/

namespace Text

theorem upper_ne_nil (c : Char) : upper c ≠ [] := by
  have hexpansions : ∀ e ∈ upperExpansions, e.2 ≠ [] := by decide
  rw [upper]
  split
  · exact List.cons_ne_nil _ _
  · split
    · rename_i e he
      simpa using hexpansions e (List.mem_of_find?_eq_some he)
    · exact List.cons_ne_nil _ _

/-- A text has no piece that is not empty only if it was cut at every character. -/
theorem filter_splitWhen_eq_nil_iff {p : Char → Bool} {s : List Char} :
    (splitWhen p s).filter (· ≠ []) = [] ↔ ∀ c ∈ s, p c = true := by
  induction s with
  | nil => simp [splitWhen]
  | cons c r ih =>
    rw [splitWhen]
    by_cases hc : p c = true
    · simpa [hc] using ih
    · cases hr : splitWhen p r <;> simp [hc]

end Text

namespace Example

theorem ofList_capitalize_ne_empty {w : List Char} (h : w ≠ []) :
    String.ofList (capitalize w) ≠ "" := by
  cases w with
  | nil => exact absurd rfl h
  | cons c r => simp [capitalize, Text.upper_ne_nil]

theorem joinWith_eq_empty_iff {sep : String} {ws : List String} (h : ∀ w ∈ ws, w ≠ "") :
    Text.joinWith sep ws = "" ↔ ws = [] := by
  cases ws with
  | nil => simp [Text.joinWith]
  | cons w ws =>
    have hw : w ≠ "" := h w List.mem_cons_self
    cases ws <;> simp [Text.joinWith, hw]

/-- A name has no words exactly if it consists of dashes. -/
theorem titleCase_eq_empty_iff {s : String} : titleCase s = "" ↔ ∀ c ∈ s.toList, c = '-' := by
  have hwords : ∀ w ∈ ((Text.splitWhen (· == '-') s.toList).filter (· ≠ [])).map
      (fun w => String.ofList (capitalize w)), w ≠ "" := by
    intro t ht
    obtain ⟨w, hw, rfl⟩ := List.mem_map.mp ht
    exact ofList_capitalize_ne_empty (by simpa using (List.mem_filter.mp hw).2)
  rw [titleCase, joinWith_eq_empty_iff hwords, List.map_eq_nil_iff,
    Text.filter_splitWhen_eq_nil_iff]
  simp

theorem variantOf_ne_empty (base id : String) : variantOf base id ≠ "" := by
  simp only [variantOf]
  split
  · decide
  · assumption

theorem exampleLabel_variantOf (base id : String) :
    exampleLabel (variantOf base id) = titleCase (variantOf base id) := by
  rw [exampleLabel, if_neg (variantOf_ne_empty base id)]

/-! ## What an index holds -/

theorem chooses_longerId : Chooses String.length longerId where
  first _ := rfl
  next b id := by
    by_cases h : id.length ≤ b.length
    · exact .inl ⟨if_pos h, h⟩
    · exact .inr ⟨if_neg h, Nat.le_of_not_le h⟩

theorem componentOf?_mem {fileName id : String} (h : componentOf? fileName = some id) :
    id ∈ componentIds := by
  rw [componentOf?] at h
  split at h
  · obtain rfl := Option.some.inj h
    decide
  · exact (List.mem_filter.mp (chooses_longerId.of_foldl h).1).1

/-- Whether a file is not passed over and belongs to a component. -/
def Listed (f : RawFile) (id : String) : Prop :=
  skips f = false ∧ componentOf? f.fileName = some id

instance (f : RawFile) (id : String) : Decidable (Listed f id) :=
  inferInstanceAs (Decidable (_ ∧ _))

theorem Listed.mem_componentIds {f : RawFile} {id : String} (h : Listed f id) :
    id ∈ componentIds :=
  componentOf?_mem h.2

variable {files : List RawFile}

theorem mem_classified {f : RawFile} {id : String} :
    (f, some id) ∈ classified files ↔ f ∈ files ∧ Listed f id := by
  simp only [classified, List.mem_map, List.mem_filter, Prod.mk.injEq, Bool.not_eq_true', Listed]
  constructor
  · rintro ⟨g, ⟨hg, hskips⟩, rfl, hid⟩
    exact ⟨hg, hskips, hid⟩
  · rintro ⟨hf, hskips, hid⟩
    exact ⟨f, ⟨hf, hskips⟩, rfl, hid⟩

/-- The examples of a component are those in the files that belong to it. -/
theorem mem_examplesOf {id : String} {e : Example} :
    e ∈ examplesOf files id ↔ ∃ f ∈ files, Listed f id ∧ ofFile f id = e := by
  simp only [examplesOf, List.mem_filterMap, Prod.exists]
  constructor
  · rintro ⟨f, i, hmem, h⟩
    split at h
    · rename_i hi
      obtain rfl : i = some id := hi
      obtain ⟨hf, hlisted⟩ := mem_classified.mp hmem
      exact ⟨f, hf, hlisted, Option.some.inj h⟩
    · cases h
  · rintro ⟨f, hf, hlisted, rfl⟩
    exact ⟨f, some id, mem_classified.mpr ⟨hf, hlisted⟩, by simp⟩

theorem mem_sortByLabel {α : Type} {label : α → String} {xs : List α} {a : α} :
    a ∈ sortByLabel label xs ↔ a ∈ xs :=
  List.mem_mergeSort

/-- The components of an index are those of its files. -/
theorem mem_components {c : ComponentExamples} :
    c ∈ (buildIndex files).components ↔ ∃ id, (∃ f ∈ files, Listed f id) ∧
      (⟨id, componentLabel id, sortByLabel (·.label) (examplesOf files id)⟩ :
        ComponentExamples) = c := by
  simp [buildIndex, mem_sortByLabel, Text.mem_ordered, mem_classified]

/-! ## Files that spoil an index -/

/-- A file that gives an example without a label or without code. -/
def Spoils (f : RawFile) : Prop :=
  ∃ id, Listed f id ∧ (f.code = "" ∨ ∀ c ∈ (variantOf (baseName f.fileName) id).toList, c = '-')

instance (f : RawFile) : Decidable (Spoils f) :=
  decidable_of_iff (∃ id ∈ componentIds, Listed f id ∧
      (f.code = "" ∨ (variantOf (baseName f.fileName) id).toList.all (· == '-') = true))
    ⟨fun ⟨id, _, h⟩ => ⟨id, by simpa using h⟩,
      fun ⟨id, h⟩ => ⟨id, h.1.mem_componentIds, by simpa using h⟩⟩

theorem filled_ofFile_iff {f : RawFile} {id : String} (hid : id ∈ componentIds)
    (hpath : f.sourcePath ≠ "") : (ofFile f id).Filled ↔
      f.code ≠ "" ∧ ¬ ∀ c ∈ (variantOf (baseName f.fileName) id).toList, c = '-' := by
  have hids : ∀ id ∈ componentIds, id ≠ "" := by decide
  have hname : id ++ "-" ++ variantOf (baseName f.fileName) id ≠ "" := by
    simp [hids id hid]
  simp only [Filled, ofFile, exampleLabel_variantOf, ← titleCase_eq_empty_iff]
  constructor
  · exact fun ⟨_, hlabel, _, hcode⟩ => ⟨hcode, hlabel⟩
  · exact fun ⟨hcode, hlabel⟩ => ⟨hname, hlabel, hpath, hcode⟩

/-- Nothing in an index is empty unless one of its files spoils it. -/
theorem filled_buildIndex_iff (hpaths : ∀ f ∈ files, f.sourcePath ≠ "") :
    (buildIndex files).Filled ↔ ∀ f ∈ files, ¬ Spoils f := by
  have hlabels : ∀ id ∈ componentIds, id ≠ "" ∧ componentLabel id ≠ "" := by decide
  constructor
  · rintro h f hf ⟨id, hlisted, hempty⟩
    have hcomponent := h _ (mem_components.mpr ⟨id, ⟨f, hf, hlisted⟩, rfl⟩)
    have hexample : (ofFile f id).Filled :=
      hcomponent.2.2 _ (mem_sortByLabel.mpr (mem_examplesOf.mpr ⟨f, hf, hlisted, rfl⟩))
    obtain ⟨hcode, hdashes⟩ :=
      (filled_ofFile_iff hlisted.mem_componentIds (hpaths f hf)).mp hexample
    exact hempty.elim hcode hdashes
  · intro h c hc
    obtain ⟨id, ⟨g, hg, hid⟩, rfl⟩ := mem_components.mp hc
    obtain ⟨hid, hlabel⟩ := hlabels id hid.mem_componentIds
    refine ⟨hid, hlabel, fun e he => ?_⟩
    obtain ⟨f, hf, hlisted, rfl⟩ := mem_examplesOf.mp (mem_sortByLabel.mp he)
    refine (filled_ofFile_iff hlisted.mem_componentIds (hpaths f hf)).mpr ⟨?_, ?_⟩
    · exact fun hcode => h f hf ⟨id, hlisted, .inl hcode⟩
    · exact fun hdashes => h f hf ⟨id, hlisted, .inr hdashes⟩

/-- **An index that was built is read back** if no file has its code missing or nothing but dashes
for the name of its example; one such file that is not passed over makes the reader refuse the
document. -/
theorem built_index_read_back (hpaths : ∀ f ∈ files, f.sourcePath ≠ "") :
    ((∀ f ∈ files, ¬ Spoils f) →
      ExampleIndex.parse (buildIndex files).text = .ok (buildIndex files)) ∧
    ((∃ f ∈ files, Spoils f) → ExampleIndex.parse (buildIndex files).text =
      .error (.malformedIndex "malformed component or example entry")) := by
  have hfilled := filled_buildIndex_iff hpaths
  constructor
  · intro h
    rw [ExampleIndex.parse_text, if_pos (hfilled.mpr h)]
  · rintro ⟨f, hf, hspoils⟩
    have hempty : ¬ (buildIndex files).Filled := fun h => hfilled.mp h f hf hspoils
    rw [ExampleIndex.parse_text, if_neg hempty]

/-- Names with dashes to spare, a name that says nothing but its component, and a file without code
that is passed over spoil nothing; a file without code that is not passed over does. -/
theorem built_index_read_back_with_spare_dashes :
    let tidy : List RawFile := [⟨"button---big-.tsx", "a", "x"⟩, ⟨"kbd.tsx", "b", "x"⟩,
      ⟨"data-picker-.tsx", "c", "x"⟩, ⟨"card-rtl.tsx", "d", ""⟩, ⟨"cards.tsx", "e", ""⟩]
    let untidy : List RawFile := [⟨"card-a.tsx", "a", "x"⟩, ⟨"card-b.tsx", "b", ""⟩]
    (∀ f ∈ tidy, f.sourcePath ≠ "") ∧ (∀ f ∈ tidy, ¬ Spoils f) ∧
      ExampleIndex.parse (buildIndex tidy).text = .ok (buildIndex tidy) ∧
      (∀ f ∈ untidy, f.sourcePath ≠ "") ∧ (∃ f ∈ untidy, Spoils f) ∧
      ExampleIndex.parse (buildIndex untidy).text =
        .error (.malformedIndex "malformed component or example entry") := by
  intro tidy untidy
  have htidy : ∀ f ∈ tidy, f.sourcePath ≠ "" := by decide
  have hspares : ∀ f ∈ tidy, ¬ Spoils f := by decide +kernel
  have huntidy : ∀ f ∈ untidy, f.sourcePath ≠ "" := by decide
  have hspoils : ∃ f ∈ untidy, Spoils f := by decide +kernel
  exact ⟨htidy, hspares, (built_index_read_back htidy).1 hspares, huntidy, hspoils,
    (built_index_read_back huntidy).2 hspoils⟩

/-- Not every index that is built can be read: two dashes say no name. -/
theorem built_index_refused_of_dashes :
    ¬ ∀ files : List RawFile, (∀ f ∈ files, f.fileName ≠ "" ∧ f.sourcePath ≠ "") →
      ExampleIndex.parse (buildIndex files).text = .ok (buildIndex files) := by
  intro h
  have hread := h [⟨"button--.tsx", "src/button--.tsx", "x"⟩] (by decide)
  rw [ExampleIndex.parse_text, if_neg (by decide +kernel)] at hread
  exact nomatch hread

end Example

end LivePreview
