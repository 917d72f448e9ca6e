import LivePreview.Proofs.BuiltIndex
import LivePreview.Proofs.Members
/-!
# Documents of an index

What a document says is stated here apart from its reader: its members under the names of the fields
are the parts of an index (`States`), and other members do not count. The reader first checks the
values and then reads the records. Its check finds exactly the values that state something without an
empty text (`isComplete_merged`), and each value that states a record is read as this record
(`ofJson?_merged`), so nothing fails behind the check (`documents_read_exactly`).
-/
namespace LivePreview

open Json (Has)

variable {j : Json} {text : String}

/-- An object states an example with its members. -/
structure Example.States (j : Json) (e : Example) : Prop where
  id : j.Has "id" (.str e.id)
  label : j.Has "label" (.str e.label)
  sourcePath : j.Has "sourcePath" (.str e.sourcePath)
  code : j.Has "code" (.str e.code)

/-- An object states a component: its examples are stated in an array, in their order. -/
structure ComponentExamples.States (j : Json) (c : ComponentExamples) : Prop where
  id : j.Has "id" (.str c.id)
  label : j.Has "label" (.str c.label)
  examples : ∃ es, j.Has "examples" (.arr es) ∧ List.Forall₂ Example.States es c.examples

/-- An object states an index: its components are stated in an array, in their order. -/
def ExampleIndex.States (j : Json) (i : ExampleIndex) : Prop :=
  ∃ cs, j.Has "components" (.arr cs) ∧ List.Forall₂ ComponentExamples.States cs i.components

/-! ## Members of a merged object -/

namespace Json

variable {key : String}

theorem Has.isObj {v : Json} (h : j.Has key v) : ∃ ms, j = obj ms := by
  obtain ⟨front, back, rfl, -⟩ := h
  exact ⟨_, rfl⟩

theorem str?_get?_merged {s : String} :
    (j.merged.get? key).bind str? = some s ↔ j.Has key (str s) := by
  have hstr : ∀ v : Json, v.str? = some s ↔ v = str s := by
    intro v
    cases v <;> simp [str?]
  simp [Option.bind_eq_some_iff, hstr, get?_merged, merged_eq_str]

theorem arr?_get?_merged {vs : List Json} : (j.merged.get? key).bind arr? = some vs ↔
    ∃ us, j.Has key (arr us) ∧ us.map merged = vs := by
  have harr : ∀ v : Json, v.arr? = some vs ↔ v = arr vs := by
    intro v
    cases v <;> simp [arr?]
  simp only [Option.bind_eq_some_iff, harr, exists_eq_right, get?_merged, merged_eq_arr]
  constructor
  · rintro ⟨u, hu, us, rfl, hus⟩
    exact ⟨us, hu, hus⟩
  · rintro ⟨us, hu, hus⟩
    exact ⟨arr us, hu, us, rfl, hus⟩

theorem parse?_eq_some {v : Json} : parse? text = some v ↔
    ∃ j, readDocument? text = some j ∧ j.sound = true ∧ j.merged = v := by
  rw [parse?]
  split
  · rename_i j hread
    simp [hread]
  · rename_i hread
    simp [hread]

end Json

/-! ## The check and the reading of a list -/

section Lists

variable {α : Type} {States : Json → α → Prop} {js : List Json}

theorem Json.all_map_merged {check : Json → Bool} {Filled : α → Prop}
    (h : ∀ {j : Json}, check j.merged = true ↔ ∃ a, States j a ∧ Filled a) :
    (js.map Json.merged).all check = true ↔
      ∃ as, List.Forall₂ States js as ∧ ∀ a ∈ as, Filled a := by
  simp [exists_forall₂_iff, h]

theorem Json.mapM_map_merged {read : Json → Option α} {as : List α}
    (h : ∀ {j : Json} {a : α}, States j a → read j.merged = some a)
    (hall : List.Forall₂ States js as) : (js.map Json.merged).mapM read = some as :=
  mapM_of_forall₂ (List.forall₂_map_left_iff.mpr (hall.imp fun _ _ hstates => h hstates))

end Lists

/-! ## The check and the reading of one value -/

namespace Example

theorem filled_merged {key : String} :
    filled j.merged key = true ↔ ∃ s, j.Has key (.str s) ∧ s ≠ "" := by
  simp only [filled, Option.any_eq_true, Json.str?_get?_merged, decide_eq_true_eq]

theorem isComplete_merged : isComplete j.merged = true ↔ ∃ e, States j e ∧ e.Filled := by
  simp only [isComplete, fieldNames, List.all_cons, List.all_nil, Bool.and_true, Bool.and_eq_true,
    filled_merged]
  constructor
  · rintro ⟨-, ⟨id, hid, hid'⟩, ⟨label, hlabel, hlabel'⟩, ⟨path, hpath, hpath'⟩,
      ⟨code, hcode, hcode'⟩⟩
    exact ⟨⟨id, label, path, code⟩, ⟨hid, hlabel, hpath, hcode⟩, hid', hlabel', hpath', hcode'⟩
  · rintro ⟨e, he, hid, hlabel, hpath, hcode⟩
    obtain ⟨ms, rfl⟩ := he.id.isObj
    exact ⟨rfl, ⟨_, he.id, hid⟩, ⟨_, he.label, hlabel⟩, ⟨_, he.sourcePath, hpath⟩,
      ⟨_, he.code, hcode⟩⟩

/-- A value that states an example is read as this example. -/
theorem ofJson?_merged {e : Example} (h : States j e) : ofJson? j.merged = some e := by
  obtain ⟨ms, hj⟩ := h.id.isObj
  obtain ⟨r, hrecord, hfields⟩ := Json.exists_record?_merged fieldNames hj
  have htext : ∀ key ∈ fieldNames, ∀ s, j.Has key (.str s) → r.required key Json.str? = some s :=
    fun key hkey s hs => (hfields key hkey _).trans (Json.str?_get?_merged.mpr hs)
  rw [ofJson?, hrecord]
  simp [htext "id" (by decide) _ h.id, htext "label" (by decide) _ h.label,
    htext "sourcePath" (by decide) _ h.sourcePath, htext "code" (by decide) _ h.code]

end Example

namespace ComponentExamples

theorem isComplete_merged : isComplete j.merged = true ↔ ∃ c, States j c ∧ c.Filled := by
  simp only [isComplete, Bool.and_eq_true, Option.any_eq_true, Example.filled_merged,
    Json.arr?_get?_merged]
  constructor
  · rintro ⟨⟨⟨-, id, hid, hid'⟩, label, hlabel, hlabel'⟩, _, ⟨es, hes, rfl⟩, hall⟩
    obtain ⟨examples, hstates, hfilled⟩ :=
      (Json.all_map_merged Example.isComplete_merged).mp hall
    exact ⟨⟨id, label, examples⟩, ⟨hid, hlabel, es, hes, hstates⟩, hid', hlabel', hfilled⟩
  · rintro ⟨c, hc, hid, hlabel, hfilled⟩
    obtain ⟨ms, rfl⟩ := hc.id.isObj
    obtain ⟨es, hes, hstates⟩ := hc.examples
    exact ⟨⟨⟨rfl, _, hc.id, hid⟩, _, hc.label, hlabel⟩, _, ⟨es, hes, rfl⟩,
      (Json.all_map_merged Example.isComplete_merged).mpr ⟨c.examples, hstates, hfilled⟩⟩

/-- A value that states a component is read as this component. -/
theorem ofJson?_merged {c : ComponentExamples} (h : States j c) :
    ofJson? j.merged = some c := by
  obtain ⟨ms, hj⟩ := h.id.isObj
  obtain ⟨r, hrecord, hfields⟩ := Json.exists_record?_merged ["id", "label", "examples"] hj
  obtain ⟨es, hes, hstates⟩ := h.examples
  have hid : r.required "id" Json.str? = some c.id :=
    (hfields "id" (by simp) _).trans (Json.str?_get?_merged.mpr h.id)
  have hlabel : r.required "label" Json.str? = some c.label :=
    (hfields "label" (by simp) _).trans (Json.str?_get?_merged.mpr h.label)
  have hexamples : r.required "examples" (Json.list? Example.ofJson?) = some c.examples := by
    -- a list is read in two steps: the value must be an array, and then each of its elements counts
    have hread : (j.merged.get? "examples").bind (Json.list? Example.ofJson?) =
        ((j.merged.get? "examples").bind Json.arr?).bind fun es => es.mapM Example.ofJson? :=
      (Option.bind_assoc _ _ _).symm
    rw [hfields "examples" (by simp), hread, Json.arr?_get?_merged.mpr ⟨es, hes, rfl⟩,
      Option.bind_some, Json.mapM_map_merged Example.ofJson?_merged hstates]
  rw [ofJson?, hrecord]
  simp [hid, hlabel, hexamples]

end ComponentExamples

/-! ## Documents -/

namespace ExampleIndex

variable {i : ExampleIndex}

/-- What is read went through each step of the reader. -/
theorem parse_eq_ok_iff : parse text = .ok i ↔ ∃ members components,
    Json.parse? text = some (.obj members) ∧
      ((Json.obj members).get? "components").bind Json.arr? = some components ∧
      components.all ComponentExamples.isComplete = true ∧
      components.mapM ComponentExamples.ofJson? = some i.components := by
  constructor
  · intro h
    rw [parse] at h
    split at h
    · cases h
    · rename_i members hparse
      split at h
      · cases h
      · rename_i components hcomponents
        split at h
        · cases h
        · rename_i hall
          split at h
          · cases h
          · rename_i cs hread
            obtain rfl := Except.ok.inj h
            exact ⟨members, components, hparse, hcomponents, by simpa using hall, hread⟩
    · cases h
  · rintro ⟨members, components, hparse, hcomponents, hall, hread⟩
    simp [parse, hparse, hcomponents, hall, hread]

/-- The values that pass the check state components, and are read as these. -/
theorem exists_states_of_complete {members : List (String × Json)} {components : List Json}
    (hparse : Json.parse? text = some (.obj members))
    (hcomponents : ((Json.obj members).get? "components").bind Json.arr? = some components)
    (hall : components.all ComponentExamples.isComplete = true) :
    ∃ j cs, Json.readDocument? text = some j ∧ j.sound = true ∧ States j ⟨cs⟩ ∧
      (∀ c ∈ cs, c.Filled) ∧ components.mapM ComponentExamples.ofJson? = some cs := by
  obtain ⟨j, hdocument, hsound, hmerged⟩ := Json.parse?_eq_some.mp hparse
  rw [← hmerged] at hcomponents
  obtain ⟨us, hus, rfl⟩ := Json.arr?_get?_merged.mp hcomponents
  obtain ⟨cs, hstates, hfilled⟩ :=
    (Json.all_map_merged ComponentExamples.isComplete_merged).mp hall
  exact ⟨j, cs, hdocument, hsound, ⟨us, hus, hstates⟩, hfilled,
    Json.mapM_map_merged ComponentExamples.ofJson?_merged hstates⟩

/-- An index is read from a text exactly if the text states it and nothing in it is empty. -/
theorem parse_eq_ok_iff_states : parse text = .ok i ↔ i.Filled ∧
    ∃ j, Json.readDocument? text = some j ∧ j.sound = true ∧ States j i := by
  rw [parse_eq_ok_iff]
  constructor
  · rintro ⟨members, components, hparse, hcomponents, hall, hread⟩
    obtain ⟨j, cs, hdocument, hsound, hstates, hfilled, hcs⟩ :=
      exists_states_of_complete hparse hcomponents hall
    obtain rfl : cs = i.components := Option.some.inj (hcs.symm.trans hread)
    exact ⟨hfilled, j, hdocument, hsound, hstates⟩
  · rintro ⟨hfilled, j, hdocument, hsound, us, hus, hstates⟩
    obtain ⟨ms, hj⟩ := hus.isObj
    have hmerged : j.merged = .obj (Json.mergeMembers (Json.mergedMembers ms)) := by
      rw [hj, Json.merged]
    exact ⟨_, _, Json.parse?_eq_some.mpr ⟨j, hdocument, hsound, hmerged⟩,
      hmerged ▸ Json.arr?_get?_merged.mpr ⟨us, hus, rfl⟩,
      (Json.all_map_merged ComponentExamples.isComplete_merged).mpr ⟨_, hstates, hfilled⟩,
      Json.mapM_map_merged ComponentExamples.ofJson?_merged hstates⟩

/-- **A document of an index is read exactly if it states one** in which no text is empty, and what
is read is the index that it states. Here a document is a text that holds one JSON value and nothing
else, in which numbers are finite, surrogates come in pairs and containers do not nest too deep.
Behind the check of the values the records can always be read; and every index without an empty text
is read from its own document. -/
theorem documents_read_exactly :
    (∀ text i, parse text = .ok i ↔ i.Filled ∧
      ∃ j, Json.readDocument? text = some j ∧ j.sound = true ∧ States j i) ∧
    (∀ text members components, Json.parse? text = some (.obj members) →
      ((Json.obj members).get? "components").bind Json.arr? = some components →
      components.all ComponentExamples.isComplete = true →
      ∃ cs, components.mapM ComponentExamples.ofJson? = some cs) ∧
    ∀ i : ExampleIndex, i.Filled → parse i.text = .ok i := by
  refine ⟨fun text i => parse_eq_ok_iff_states, ?_, fun i hi => by rw [parse_text, if_pos hi]⟩
  intro text members components hparse hcomponents hall
  obtain ⟨-, cs, -, -, -, -, hread⟩ := exists_states_of_complete hparse hcomponents hall
  exact ⟨cs, hread⟩

end ExampleIndex

end LivePreview
