import LivePreview.Config
import LivePreview.Example.Index
import LivePreview.Imports.Map
import LivePreview.Message.Payload
import LivePreview.Message.Report
import LivePreview.Message.Styling
import LivePreview.Proofs.JsonText
import LivePreview.Registry.File
import LivePreview.Snippet
import LivePreview.Transpile
/-!
# What is written is read back

A document of the wire format is the text of a record, or of a record with a tag. Whatever the
values of its fields are, reading the text as what was written gives back the same record
(`written_records_read_back`): the compact text and the indented one are both spellings of the JSON
value (`Proofs/JsonText`), and the decoder of each record is a left inverse of its encoder.

The encoders are built from few parts, and each part has one lemma: a record whose members are all
known and different (`record?_obj`), a tag in front of members that are not tags
(`tagged?_ofTagged`), and the values of the fields. The numbers of a record have the range of their
fields, which is a hypothesis here because they are natural numbers; so is the order of the keys of
an import map.
-/

namespace LivePreview

namespace Json

/-! ## Parts of records -/

section Parts

variable {names : List String} {ms : List (String × Json)}

/-- Members that are all fields, each once, are the fields that are given. -/
theorem record?_obj (hknown : (ms.all fun m => names.contains m.1) = true)
    (hdistinct : distinctKeys ms = true) : record? names (obj ms) = some ⟨ms, false⟩ := by
  have hfilter : ms.filter (fun m => names.contains m.1) = ms := by
    rw [List.filter_eq_self]
    exact List.all_eq_true.mp hknown
  rw [record?, hfilter, if_pos hdistinct]

@[simp] theorem record?_obj_nil : record? names (obj []) = some ⟨[], false⟩ := rfl

@[simp] theorem value?_cons (k key : String) (j : Json) (isArray : Bool) :
    Record.value? ⟨(k, j) :: ms, isArray⟩ key =
      if k = key then some j else Record.value? ⟨ms, isArray⟩ key := by
  by_cases h : k = key <;> simp [Record.value?, h]

@[simp] theorem value?_nil (key : String) (isArray : Bool) :
    Record.value? ⟨[], isArray⟩ key = none := rfl

/-- A tag is found in front of members that are no tags. -/
theorem tagged?_ofTagged {tag : String} (htag : (ms.all fun m => m.1 ≠ tagKey) = true)
    (hsound : soundMembers ms = true) : tagged? (ofTagged tag ms) = some ⟨tag, obj ms⟩ := by
  have hother : ms.filter (fun m => m.1 ≠ tagKey) = ms := by
    rw [List.filter_eq_self]
    exact List.all_eq_true.mp htag
  have hnone : ms.filter (fun m => m.1 = tagKey) = [] := by
    rw [List.filter_eq_nil_iff]
    intro m hm
    simpa using List.all_eq_true.mp htag m hm
  simp only [tagged?, ofTagged, List.filter_cons, hother, hnone]
  simp [hsound]

@[simp] theorem soundElements_strings (ss : List String) : soundElements (ss.map str) = true := by
  induction ss with
  | nil => rfl
  | cons s ss ih => simp [soundElements, sound, ih]

@[simp] theorem str?_str (s : String) : (str s).str? = some s := rfl

@[simp] theorem caseName?_str (s : String) : (str s).caseName? = some s := rfl

@[simp] theorem caseNameWithin?_str (s : String) : (str s).caseNameWithin? = some s := rfl

theorem natBelow?_ofNat {limit n : Nat} (h : n < limit) : natBelow? limit (ofNat n) = some n := by
  simp [natBelow?, ofNat, nat?, h]

theorem word64?_ofNat {n : Nat} (h : n < wordLimit) : word64? (ofNat n) = some n :=
  natBelow?_ofNat h

theorem word32?_ofNat {n : Nat} (h : n < Nat.pow 2 32) : word32? (ofNat n) = some n :=
  natBelow?_ofNat h

section Nullable

variable {α : Type} {decode : Json → Option α}

/-- A field that is given is `null` or read. -/
theorem optionalOrMissing_eq (r : Record) (key : String) :
    r.optionalOrMissing key decode = ((r.value? key).map (nullable? decode)).getD (some none) := by
  rw [Record.optionalOrMissing]
  rcases h : r.value? key with - | j
  · rfl
  · cases j <;> rfl

@[simp] theorem nullable?_str (s : String) : nullable? decode (str s) = (decode (str s)).map some :=
  rfl

@[simp] theorem nullable?_ofNat (n : Nat) :
    nullable? decode (ofNat n) = (decode (ofNat n)).map some := rfl

@[simp] theorem nullable?_ofOption (o : Option String) : nullable? str? (ofOption str o) = some o := by
  cases o <;> rfl

end Nullable

/-- A list is read back if each of its elements is. -/
theorem list?_map {α : Type} {encode : α → Json} {decode : Json → Option α} {xs : List α}
    (h : ∀ x, decode (encode x) = some x) : list? decode (arr (xs.map encode)) = some xs := by
  rw [list?, arr?, Option.bind_some, mapM_map_of_undone h]

@[simp] theorem list?_ofStrings (ss : List String) : list? str? (ofStrings ss) = some ss :=
  list?_map str?_str

theorem fits_ofNat {depth n : Nat} (h : n < wordLimit) : Fits depth (ofNat n) := .nat h

theorem fits_map {α : Type} {depth : Nat} {encode : α → Json} {xs : List α}
    (h : ∀ x, Fits depth (encode x)) : Fits (depth + 1) (arr (xs.map encode)) := by
  refine .arr fun j hj => ?_
  obtain ⟨x, -, rfl⟩ := List.mem_map.mp hj
  exact h x

theorem fits_ofStrings {depth : Nat} (ss : List String) : Fits (depth + 1) (ofStrings ss) :=
  fits_map .str

theorem fits_ofOption {depth : Nat} (o : Option String) : Fits depth (ofOption .str o) := by
  cases o with
  | none => exact .null
  | some s => exact .str s

end Parts

/-- Both layouts of a record are read as this record. -/
structure ReadBack {α : Type} (encode : α → Json) (decode : Json → Option α) (a : α) : Prop where
  compact : decode? decode (encode a).compact = some a
  pretty : decode? decode (encode a).pretty = some a

theorem readBack_of_fits {α : Type} {encode : α → Json} {decode : Json → Option α} {a : α}
    (hfits : Fits depthLimit (encode a)) (hdecode : decode (encode a) = some a) :
    ReadBack encode decode a where
  compact := by rw [decode?, hfits.readDocument?_compact, Option.bind_some, hdecode]
  pretty := by rw [decode?, hfits.readDocument?_pretty, Option.bind_some, hdecode]

end Json

open Json

/-! ## Messages -/

namespace Payload

theorem ofName?_name (s : ColorScheme) : ColorScheme.ofName? s.name = some s := by
  cases s <;> rfl

theorem ofJson?_toJson (p : Payload) : ofJson? p.toJson = some p := by
  rw [ofJson?, toJson, tagged?_ofTagged]
  · cases p <;>
      simp [kind, fields, ofTagged?, Tagged.fields?, record?_obj, distinctKeys, Record.required,
        ofName?_name]
  · cases p <;> simp [fields, tagKey]
  · cases p <;> rfl

theorem fits_toJson (p : Payload) : Fits depthLimit p.toJson := by
  refine .obj ?_
  cases p <;> simp [fields, Fits.str]

theorem kind_of_ofTagged? {t : Tagged} {p : Payload} (h : ofTagged? t = some p) :
    p.kind = t.tag := by
  rw [ofTagged?] at h
  split at h
  case h_6 => simp at h
  all_goals
    rename_i htag
    rw [htag]
    simp only [Option.bind_eq_bind, Option.bind_eq_some_iff, Option.pure_def, Option.some.injEq,
      Option.map_eq_some_iff] at h
  case h_4 =>
    obtain ⟨_, _, _, _, _, _, rfl⟩ := h
    rfl
  case h_5 =>
    obtain ⟨_, _, rfl⟩ := h
    rfl
  all_goals
    obtain ⟨_, _, _, _, rfl⟩ := h
    rfl

theorem readBack (p : Payload) : ReadBack toJson ofJson? p :=
  readBack_of_fits p.fits_toJson p.ofJson?_toJson

end Payload

namespace Failure

theorem record?_fields (f : Failure) :
    record? fieldNames (obj f.fields) = some ⟨f.fields, false⟩ := by
  refine record?_obj ?_ ?_
  · cases h : f.stack <;> simp [fields, fieldNames, optionalField, h]
  · cases h : f.stack <;> simp [fields, optionalField, distinctKeys, h]

theorem ofRecord?_fields (f : Failure) : ofRecord? ⟨f.fields, false⟩ = some f := by
  obtain ⟨message, stack⟩ := f
  cases stack <;>
    simp [ofRecord?, fields, optionalField, Record.required, optionalOrMissing_eq]

theorem ofJson?_toJson (f : Failure) : ofJson? f.toJson = some f := by
  rw [ofJson?, toJson, record?_fields, Option.bind_some, ofRecord?_fields]

theorem fits_fields {depth : Nat} (f : Failure) : ∀ m ∈ f.fields, Fits depth m.2 := by
  cases h : f.stack <;> simp [fields, optionalField, h, Fits.str]

theorem fits_toJson (f : Failure) : Fits depthLimit f.toJson := .obj f.fits_fields

theorem readBack (f : Failure) : ReadBack toJson ofJson? f :=
  readBack_of_fits f.fits_toJson f.ofJson?_toJson

end Failure

namespace Report

theorem ofName?_name (m : ConsoleMethod) : ConsoleMethod.ofName? m.name = some m := by
  cases m <;> rfl

theorem ofJson?_toJson (r : Report) : ofJson? r.toJson = some r := by
  rw [ofJson?, toJson, tagged?_ofTagged]
  · cases r with
    | failed f =>
      simp [kind, fields, ofTagged?, Tagged.fields?, Failure.record?_fields,
        Failure.ofRecord?_fields]
    | _ =>
      simp [kind, fields, ofTagged?, Tagged.fields?, record?_obj, distinctKeys, Record.required,
        ofName?_name]
  · cases r with
    | failed f => cases h : f.stack <;> simp [fields, Failure.fields, optionalField, tagKey, h]
    | _ => simp [fields, tagKey]
  · cases r with
    | failed f =>
      cases h : f.stack <;> simp [fields, Failure.fields, optionalField, soundMembers, sound, h]
    | _ => simp [fields, soundMembers, sound, ofStrings]

theorem fits_toJson (r : Report) : Fits depthLimit r.toJson := by
  refine .obj ?_
  cases r with
  | failed f => simpa [Fits.str, fields] using f.fits_fields
  | _ => simp [fields, Fits.str, fits_ofStrings]

theorem kind_of_ofTagged? {t : Tagged} {r : Report} (h : ofTagged? t = some r) :
    r.kind = t.tag := by
  rw [ofTagged?] at h
  split at h
  case h_5 => simp at h
  all_goals
    rename_i htag
    rw [htag]
    simp only [Option.bind_eq_bind, Option.bind_eq_some_iff, Option.pure_def, Option.some.injEq,
      Option.map_eq_some_iff] at h
  case h_3 =>
    obtain ⟨_, -, rfl⟩ := h
    rfl
  case h_4 =>
    obtain ⟨_, _, _, _, _, _, _, _, rfl⟩ := h
    rfl
  all_goals
    obtain ⟨_, _, rfl⟩ := h
    rfl

theorem readBack (r : Report) : ReadBack toJson ofJson? r :=
  readBack_of_fits r.fits_toJson r.ofJson?_toJson

end Report

/-- No text is both a payload and a report: their tags differ. -/
theorem payload_or_report_none (text : String) :
    decode? Payload.ofJson? text = none ∨ decode? Report.ofJson? text = none := by
  cases hp : decode? Payload.ofJson? text with
  | none => exact .inl rfl
  | some p =>
    right
    rw [Option.eq_none_iff_forall_ne_some]
    intro r hr
    -- both readers found the same tag
    obtain ⟨j, hj, hp⟩ := Option.bind_eq_some_iff.mp hp
    obtain ⟨t, ht, hp⟩ := Option.bind_eq_some_iff.mp hp
    obtain ⟨k, hk, hr⟩ := Option.bind_eq_some_iff.mp hr
    obtain rfl : j = k := Option.some.inj (hj.symm.trans hk)
    obtain ⟨u, hu, hr⟩ := Option.bind_eq_some_iff.mp hr
    obtain rfl : t = u := Option.some.inj (ht.symm.trans hu)
    have hkinds : p.kind = r.kind :=
      (Payload.kind_of_ofTagged? hp).trans (Report.kind_of_ofTagged? hr).symm
    cases p <;> cases r <;> simp [Payload.kind, Report.kind] at hkinds

namespace StyleRequest

theorem ofJson?_toJson {r : StyleRequest} (h : r.id < wordLimit) : ofJson? r.toJson = some r := by
  rw [ofJson?, toJson, tagged?_ofTagged]
  · simp [ofTagged?, Tagged.fields?, record?_obj, distinctKeys, Record.required,
      word64?_ofNat h]
  · simp [tagKey]
  · simp [soundMembers, sound, ofStrings, ofNat]

theorem fits_toJson {r : StyleRequest} (h : r.id < wordLimit) : Fits depthLimit r.toJson := by
  refine .obj ?_
  simp [Fits.str, fits_ofStrings, fits_ofNat h]

theorem readBack {r : StyleRequest} (h : r.id < wordLimit) : ReadBack toJson ofJson? r :=
  readBack_of_fits (fits_toJson h) (ofJson?_toJson h)

end StyleRequest

namespace StyleResponse

/-- The number in a response, if there is one, has the range of its field. -/
def InRange : StyleResponse → Prop
  | ready => True
  | css _ id => id < wordLimit
  | failed _ id => ∀ n ∈ id, n < wordLimit

theorem ofJson?_toJson {r : StyleResponse} (h : r.InRange) : ofJson? r.toJson = some r := by
  cases r with
  | ready =>
    rw [ofJson?, toJson, tagged?_ofTagged rfl rfl]
    simp [ofTagged?, Tagged.fields?]
  | css text id =>
    have hid : id < wordLimit := h
    rw [ofJson?, toJson, tagged?_ofTagged (by simp [tagKey]) (by simp [soundMembers, sound, ofNat])]
    simp [ofTagged?, Tagged.fields?, record?_obj, distinctKeys, Record.required,
      word64?_ofNat hid]
  | failed message id =>
    cases id with
    | none =>
      rw [ofJson?, toJson, tagged?_ofTagged (by simp [tagKey, optionalField])
        (by simp [soundMembers, sound, optionalField])]
      simp [ofTagged?, Tagged.fields?, record?_obj, distinctKeys, optionalField, Record.required,
        optionalOrMissing_eq]
    | some id =>
      have hid : id < wordLimit := h id rfl
      rw [ofJson?, toJson, tagged?_ofTagged (by simp [tagKey, optionalField])
        (by simp [soundMembers, sound, optionalField, ofNat])]
      simp [ofTagged?, Tagged.fields?, record?_obj, distinctKeys, optionalField, Record.required,
        optionalOrMissing_eq, word64?_ofNat hid]

theorem fits_toJson {r : StyleResponse} (h : r.InRange) : Fits depthLimit r.toJson := by
  cases r with
  | ready => exact .obj (by simp [Fits.str])
  | css text id =>
    have hid : id < wordLimit := h
    exact .obj (by simp [Fits.str, fits_ofNat hid])
  | failed message id =>
    cases id with
    | none => exact .obj (by simp [optionalField, Fits.str])
    | some id => exact .obj (by simp [optionalField, Fits.str, fits_ofNat (h id rfl)])

theorem readBack {r : StyleResponse} (h : r.InRange) : ReadBack toJson ofJson? r :=
  readBack_of_fits (fits_toJson h) (ofJson?_toJson h)

end StyleResponse

/-! ## Records -/

namespace NewSnippet

theorem ofName?_name (s : SnippetSource) : SnippetSource.ofName? s.name = some s := by
  cases s <;> rfl

theorem ofJson?_toJson (s : NewSnippet) : ofJson? s.toJson = some s := by
  rw [ofJson?, toJson, record?_obj (by simp) (by simp [distinctKeys])]
  simp [Record.required, optionalOrMissing_eq, Record.defaulted, ofName?_name]

theorem fits_toJson (s : NewSnippet) : Fits depthLimit s.toJson :=
  .obj (by simp [Fits.str, fits_ofOption])

theorem readBack (s : NewSnippet) : ReadBack toJson ofJson? s :=
  readBack_of_fits s.fits_toJson s.ofJson?_toJson

end NewSnippet

namespace ImportMap

/-- The keys of a map are in order, each once. -/
def Ordered (m : ImportMap) : Prop := m.entries.Pairwise fun a b => a.1 < b.1

theorem setEntry_of_lt {key url : String} {entries : List (String × String)}
    (h : ∀ e ∈ entries, e.1 < key) : setEntry key url entries = entries ++ [(key, url)] := by
  induction entries with
  | nil => rfl
  | cons e r ih =>
    have hlt : e.1 < key := h e List.mem_cons_self
    have hne : e.1 ≠ key := fun heq => String.lt_irrefl key (heq ▸ hlt)
    rw [setEntry, if_neg (String.lt_asymm hlt), if_neg hne,
      ih fun x hx => h x (List.mem_cons_of_mem e hx)]
    rfl

/-- Entries that come in order are put behind each other. -/
theorem foldl_setEntry {acc entries : List (String × String)}
    (h : (acc ++ entries).Pairwise fun a b => a.1 < b.1) :
    entries.foldl (fun acc e => setEntry e.1 e.2 acc) acc = acc ++ entries := by
  induction entries generalizing acc with
  | nil => simp
  | cons e r ih =>
    have hlast : ∀ x ∈ acc, x.1 < e.1 := fun x hx =>
      (List.pairwise_append.mp h).2.2 x hx e List.mem_cons_self
    rw [List.append_cons] at h
    rw [List.foldl_cons, setEntry_of_lt hlast, ih h, ← List.append_cons]

theorem ofList_entries {m : ImportMap} (h : m.Ordered) : ofList m.entries = m := by
  have hentries : List.Pairwise (fun (a b : String × String) => a.1 < b.1) ([] ++ m.entries) := h
  rw [ofList, foldl_setEntry hentries]
  rfl

theorem entries?_map (entries : List (String × String)) :
    entries? (obj (entries.map fun e => (e.1, str e.2))) = some entries := by
  rw [entries?, obj?, Option.bind_some]
  apply mapM_map_of_undone
  intro e
  rfl

theorem ofJson?_toJson {m : ImportMap} (h : m.Ordered) : ofJson? m.toJson = some m := by
  rw [ofJson?, toJson, record?_obj (by simp) (by simp [distinctKeys])]
  simp [Record.required, entries?_map, ofList_entries h]

theorem fits_toJson (m : ImportMap) : Fits depthLimit m.toJson := by
  have himports : Fits 126 (obj (m.entries.map fun e => (e.1, str e.2))) := by
    refine .obj fun e he => ?_
    obtain ⟨x, -, rfl⟩ := List.mem_map.mp he
    exact .str x.2
  exact .obj (by simpa using himports)

theorem readBack {m : ImportMap} (h : m.Ordered) : ReadBack toJson ofJson? m :=
  readBack_of_fits m.fits_toJson (ofJson?_toJson h)

end ImportMap

namespace Transpiled

theorem ofJson?_toJson (t : Transpiled) : ofJson? t.toJson = some t := by
  rw [ofJson?, toJson, record?_obj (by simp) (by simp [distinctKeys])]
  simp [Record.required]

theorem fits_toJson (t : Transpiled) : Fits depthLimit t.toJson :=
  .obj (by simp [Fits.str, fits_ofStrings])

theorem readBack (t : Transpiled) : ReadBack toJson ofJson? t :=
  readBack_of_fits t.fits_toJson t.ofJson?_toJson

end Transpiled

namespace SourceError

/-- The position of an error has the range of its fields. -/
def InRange (e : SourceError) : Prop := e.line < Nat.pow 2 32 ∧ e.column < Nat.pow 2 32

theorem ofJson?_toJson {e : SourceError} (h : e.InRange) : ofJson? e.toJson = some e := by
  rw [ofJson?, toJson, record?_obj (by simp) (by simp [distinctKeys])]
  simp [Record.required, word32?_ofNat h.1, word32?_ofNat h.2]

theorem fits_toJson {e : SourceError} (h : e.InRange) : Fits depthLimit e.toJson := by
  have hlimit : Nat.pow 2 32 < wordLimit := by decide
  have hline : e.line < wordLimit := Nat.lt_trans h.1 hlimit
  have hcolumn : e.column < wordLimit := Nat.lt_trans h.2 hlimit
  exact .obj (by simp [Fits.str, fits_ofNat, hline, hcolumn])

theorem readBack {e : SourceError} (h : e.InRange) : ReadBack toJson ofJson? e :=
  readBack_of_fits (fits_toJson h) (ofJson?_toJson h)

end SourceError

namespace Registry.File

theorem ofJson?_toJson (f : File) : ofJson? f.toJson = some f := by
  rw [ofJson?, toJson, record?_obj (by simp) (by simp [distinctKeys])]
  simp [Record.required, optionalOrMissing_eq]

theorem fits_toJson (f : File) : Fits depthLimit f.toJson :=
  .obj (by simp [Fits.str, fits_ofOption])

theorem readBack (f : File) : ReadBack toJson ofJson? f :=
  readBack_of_fits f.fits_toJson f.ofJson?_toJson

end Registry.File

namespace Example

theorem ofJson?_toJson (e : Example) : ofJson? e.toJson = some e := by
  rw [ofJson?, toJson, record?_obj (by simp [fieldNames]) (by simp [distinctKeys])]
  simp [Record.required]

theorem fits_toJson {depth : Nat} (e : Example) : Fits (depth + 1) e.toJson :=
  .obj (by simp [Fits.str])

end Example

namespace ComponentExamples

theorem ofJson?_toJson (c : ComponentExamples) : ofJson? c.toJson = some c := by
  rw [ofJson?, toJson, record?_obj (by simp) (by simp [distinctKeys])]
  simp [Record.required, list?_map Example.ofJson?_toJson]

theorem fits_toJson {depth : Nat} (c : ComponentExamples) : Fits (depth + 3) c.toJson :=
  .obj (by simp [Fits.str, fits_map Example.fits_toJson])

end ComponentExamples

namespace ExampleIndex

theorem ofJson?_toJson (i : ExampleIndex) : ofJson? i.toJson = some i := by
  rw [ofJson?, toJson, record?_obj (by simp) (by simp [distinctKeys])]
  simp [Record.required, list?_map ComponentExamples.ofJson?_toJson]

theorem fits_toJson (i : ExampleIndex) : Fits depthLimit i.toJson :=
  .obj (by simp [fits_map ComponentExamples.fits_toJson])

theorem readBack (i : ExampleIndex) : ReadBack toJson ofJson? i :=
  readBack_of_fits i.fits_toJson i.ofJson?_toJson

end ExampleIndex

namespace Config

/-- The settings that are numbers have the range of their fields. -/
structure InRange (c : Config) : Prop where
  debounce : c.debounce < wordLimit
  errorGrace : c.errorGrace < wordLimit
  loopLimit : c.loopLimit < Nat.pow 2 32
  consoleCapacity : c.consoleCapacity < wordLimit
  maxSnippetBytes : c.maxSnippetBytes < wordLimit
  maxRegistryBytes : c.maxRegistryBytes < wordLimit

theorem ofJson?_toJson {c : Config} (h : c.InRange) : ofJson? c.toJson = some c := by
  rw [ofJson?, toJson, record?_obj (by simp [fieldNames]) (by simp [distinctKeys])]
  simp [Record.defaulted, word64?_ofNat h.debounce, word64?_ofNat h.errorGrace,
    word32?_ofNat h.loopLimit, word64?_ofNat h.consoleCapacity, word64?_ofNat h.maxSnippetBytes,
    word64?_ofNat h.maxRegistryBytes]

theorem fits_toJson {c : Config} (h : c.InRange) : Fits depthLimit c.toJson := by
  have hlimit : c.loopLimit < wordLimit := Nat.lt_trans h.loopLimit (by decide)
  exact .obj (by simp [Fits.str, fits_ofNat, h.debounce, h.errorGrace, hlimit, h.consoleCapacity,
    h.maxSnippetBytes, h.maxRegistryBytes])

theorem readBack {c : Config} (h : c.InRange) : ReadBack toJson ofJson? c :=
  readBack_of_fits (fits_toJson h) (ofJson?_toJson h)

end Config

/-! ## The wire format -/

/-- **What is written is read back.** Both layouts of each record are read as this record, whatever
texts are in it, whether its optional fields are given or not, and up to the limits of its numbers.
No text is both a payload and a report. -/
theorem written_records_read_back :
    (∀ p : Payload, ReadBack Payload.toJson Payload.ofJson? p) ∧
      (∀ r : Report, ReadBack Report.toJson Report.ofJson? r) ∧
      (∀ r : StyleRequest, r.id < wordLimit →
        ReadBack StyleRequest.toJson StyleRequest.ofJson? r) ∧
      (∀ r : StyleResponse, r.InRange → ReadBack StyleResponse.toJson StyleResponse.ofJson? r) ∧
      (∀ s : NewSnippet, ReadBack NewSnippet.toJson NewSnippet.ofJson? s) ∧
      (∀ m : ImportMap, m.Ordered → ReadBack ImportMap.toJson ImportMap.ofJson? m) ∧
      (∀ t : Transpiled, ReadBack Transpiled.toJson Transpiled.ofJson? t) ∧
      (∀ e : SourceError, e.InRange → ReadBack SourceError.toJson SourceError.ofJson? e) ∧
      (∀ f : Failure, ReadBack Failure.toJson Failure.ofJson? f) ∧
      (∀ f : Registry.File, ReadBack Registry.File.toJson Registry.File.ofJson? f) ∧
      (∀ i : ExampleIndex, ReadBack ExampleIndex.toJson ExampleIndex.ofJson? i) ∧
      (∀ c : Config, c.InRange → ReadBack Config.toJson Config.ofJson? c) ∧
      ∀ text, decode? Payload.ofJson? text = none ∨ decode? Report.ofJson? text = none := by
  refine ⟨Payload.readBack, Report.readBack, ?_, ?_, NewSnippet.readBack, ?_, Transpiled.readBack,
    ?_, Failure.readBack, Registry.File.readBack, ExampleIndex.readBack, ?_,
    payload_or_report_none⟩
  · exact fun _ h => StyleRequest.readBack h
  · exact fun _ h => StyleResponse.readBack h
  · exact fun _ h => ImportMap.readBack h
  · exact fun _ h => SourceError.readBack h
  · exact fun _ h => Config.readBack h

/-- The largest numbers, a text of characters that are escaped, an empty text that is given, and
keys of which one is the beginning of the other. -/
theorem written_records_read_back_at_limits :
    ReadBack StyleRequest.toJson StyleRequest.ofJson? ⟨["\"\\\x00", ""], Nat.pow 2 64 - 1⟩ ∧
      ReadBack StyleResponse.toJson StyleResponse.ofJson? (.failed "" (some (Nat.pow 2 64 - 1))) ∧
      ReadBack ImportMap.toJson ImportMap.ofJson? ⟨[("react", ""), ("react-dom", "/\n")]⟩ ∧
      ReadBack SourceError.toJson SourceError.ofJson? ⟨"é", Nat.pow 2 32 - 1, 0⟩ ∧
      ReadBack Config.toJson Config.ofJson? Config.default := by
  obtain ⟨-, -, request, response, -, map, -, error, -, -, -, config, -⟩ :=
    written_records_read_back
  refine ⟨request _ (by decide), response _ ?_, map _ ?_, error _ ?_, config _ ?_⟩
  · intro n hn
    obtain rfl : Nat.pow 2 64 - 1 = n := Option.some.inj hn
    decide
  · have hkeys : "react" < "react-dom" := by decide
    exact List.pairwise_pair.mpr hkeys
  · constructor <;> decide
  · constructor <;> decide

end LivePreview
