import LivePreview.Proofs.FileNames
import LivePreview.Proofs.NaturalOrder
import LivePreview.Proofs.Ordered
import Mathlib.Data.List.Perm.Basic
/-!
# Every file is accounted for

A file is passed over, or something is said about it, or it gives one example under the component
that its name says (`Becomes`), and there is no second thing that becomes of it (`becomes_iff`). The
index and the warnings of some files hold what becomes of each of them, once, and nothing else
(`files_accounted`): grouping by components loses no example and adds none
(`perm_flatMap_filter`), and neither does ordering a component's examples or the components, whose
labels come in their natural order.

The id of an example is made of its component and its variant, and both can be found in it again: a
longer component would have been the component of the file (`Says.eq_of_id_eq`). The name of a file
cannot, for some names spell one variant of one component (`Spells`): the demonstration may be
spelled out, left out or left out behind its dash, and the date picker has a front that is
misspelled. Two files have one id exactly if their names do that (`id_ofFile_eq_iff`), so the ids in
an index are distinct, and each finds its example, exactly if no two of its files are spelled alike
(`ids_distinct_iff`).
-/
namespace LivePreview.Example

/-! ## What becomes of a file -/

/-- What may become of a file. -/
inductive Outcome where
  | passedOver
  | warned (text : String)
  | filed (component : String) (entry : Example)

namespace Outcome

def warning? : Outcome → Option String
  | warned text => some text
  | _ => none

def filed? : Outcome → Option (String × Example)
  | filed component entry => some (component, entry)
  | _ => none

end Outcome

/-- The example that a file gives to a component if its name says `rest` behind it. -/
def exampleIn (f : RawFile) (id rest : String) : Example :=
  { id := id ++ "-" ++ variantOfRest rest
    label := exampleLabel (variantOfRest rest)
    sourcePath := f.sourcePath
    code := f.code }

/-- What becomes of a file. -/
inductive Becomes (f : RawFile) : Outcome → Prop
  | passedOver : SaysRightToLeft f → Becomes f .passedOver
  | warned : ¬ SaysRightToLeft f → (∀ id rest, ¬ Says (baseName f.fileName) id rest) →
      Becomes f (.warned ("Skipping " ++ f.fileName ++ ": component id not recognized."))
  | filed {id rest : String} : ¬ SaysRightToLeft f → Says (baseName f.fileName) id rest →
      Becomes f (.filed id (exampleIn f id rest))

/-- What becomes of a file, from its own functions. -/
def outcomeOf (f : RawFile) : Outcome :=
  if skips f then .passedOver
  else
    match componentOf? f.fileName with
    | none => .warned (warning f)
    | some id => .filed id (ofFile f id)

theorem ofFile_eq_exampleIn {f : RawFile} {id rest : String}
    (h : Says (baseName f.fileName) id rest) : ofFile f id = exampleIn f id rest := by
  rw [ofFile, exampleIn, h.variantOf_eq]

/-- One thing becomes of a file, and no other. -/
theorem becomes_iff {f : RawFile} {o : Outcome} : Becomes f o ↔ o = outcomeOf f := by
  constructor
  · rintro (hleft | ⟨hleft, hnone⟩ | ⟨hleft, hsaid⟩)
    · rw [outcomeOf, if_pos (skips_iff.mpr hleft)]
    · rw [outcomeOf, if_neg (mt skips_iff.mp hleft), componentOf?_eq_none.mpr hnone]
      rfl
    · rw [outcomeOf, if_neg (mt skips_iff.mp hleft), componentOf?_eq_some.mpr ⟨_, hsaid⟩,
        ← ofFile_eq_exampleIn hsaid]
  · rintro rfl
    rw [outcomeOf]
    split
    · rename_i hskips
      exact .passedOver (skips_iff.mp hskips)
    · rename_i hskips
      have hleft := mt skips_iff.mpr hskips
      split
      · rename_i hnone
        exact .warned hleft (componentOf?_eq_none.mp hnone)
      · rename_i id hsome
        obtain ⟨rest, hsaid⟩ := componentOf?_eq_some.mp hsome
        rw [ofFile_eq_exampleIn hsaid]
        exact .filed hleft hsaid

/-- The example in a file, with its component, unless the file gives none. -/
def filed? (f : RawFile) : Option (String × Example) := (outcomeOf f).filed?

theorem filed?_eq (f : RawFile) : filed? f =
    if skips f then none else (componentOf? f.fileName).map fun id => (id, ofFile f id) := by
  rw [filed?, outcomeOf]
  split
  · rfl
  · cases componentOf? f.fileName <;> rfl

theorem filed?_eq_some {f : RawFile} {id : String} {e : Example} :
    filed? f = some (id, e) ↔ Listed f id ∧ ofFile f id = e := by
  rw [filed?_eq, Listed]
  by_cases hskips : skips f = true <;> simp +contextual [hskips]

/-! ## Grouping -/

/-- **Grouping by keys** loses nothing and adds nothing: what has one of some different keys is in
one group, as often as it was there. -/
theorem perm_flatMap_filter {α κ : Type} [DecidableEq κ] (key : α → κ) {keys : List κ}
    (hkeys : keys.Nodup) {xs : List α} (h : ∀ x ∈ xs, key x ∈ keys) :
    (keys.flatMap fun k => xs.filter fun x => key x = k).Perm xs := by
  induction xs with
  | nil => simp
  | cons x xs ih =>
    obtain ⟨hx, hxs⟩ := List.forall_mem_cons.mp h
    obtain ⟨front, back, rfl⟩ := List.append_of_mem hx
    have hfront : key x ∉ front := fun hmem =>
      (List.nodup_append.mp hkeys).2.2 _ hmem _ List.mem_cons_self rfl
    have hback : key x ∉ back := (List.nodup_cons.mp (List.nodup_append.mp hkeys).2.1).1
    -- `x` is in the group of its key only
    have hother : ∀ ks : List κ, key x ∉ ks →
        (ks.flatMap fun k => (x :: xs).filter fun x => key x = k) =
          ks.flatMap fun k => xs.filter fun x => key x = k := by
      intro ks hks
      refine congrArg List.flatten (List.map_congr_left fun k hk => ?_)
      have hne : key x ≠ k := fun heq => hks (heq ▸ hk)
      rw [List.filter_cons_of_neg (by simpa using hne)]
    have hgroup : ((x :: xs).filter fun y => key y = key x) =
        x :: xs.filter fun y => key y = key x := by
      rw [List.filter_cons_of_pos (by simp)]
    rw [List.flatMap_append, List.flatMap_cons, hother front hfront, hother back hback, hgroup,
      List.cons_append]
    refine List.perm_middle.trans (List.Perm.cons x ?_)
    simpa [List.flatMap_append, List.flatMap_cons] using ih hxs

/-! ## The index -/

/-- The examples of an index, with the components under which they are filed. -/
def filedIn (i : ExampleIndex) : List (String × Example) :=
  i.components.flatMap fun c => c.examples.map fun e => (c.id, e)

theorem sortByLabel_perm {α : Type} (label : α → String) (xs : List α) :
    (sortByLabel label xs).Perm xs :=
  List.mergeSort_perm xs _

/-- What is ordered by labels has its labels in their natural order. -/
theorem sortByLabel_pairwise {α : Type} (label : α → String) (xs : List α) :
    (sortByLabel label xs).Pairwise fun a b =>
      (naturalCompare (label a) (label b)).isLE = true := by
  refine List.pairwise_mergeSort (fun _ _ _ => Std.TransCmp.isLE_trans) (fun a b => ?_) xs
  have hswap : naturalCompare (label b) (label a) =
      (naturalCompare (label a) (label b)).swap := Std.OrientedCmp.eq_swap
  rw [hswap]
  cases naturalCompare (label a) (label b) <;> rfl

theorem examplesOf_eq (files : List RawFile) (id : String) :
    examplesOf files id = ((files.filterMap filed?).filter fun e => e.1 = id).map (·.2) := by
  induction files with
  | nil => rfl
  | cons f files ih =>
    simp only [examplesOf, classified] at ih ⊢
    cases hskips : skips f with
    | true => simpa [filed?_eq, hskips] using ih
    | false =>
      cases hid : componentOf? f.fileName with
      | none => simpa [filed?_eq, hskips, hid] using ih
      | some i =>
        by_cases hi : i = id
        · simpa [filed?_eq, hskips, hid, hi] using ih
        · simpa [filed?_eq, hskips, hid, hi] using ih

theorem warnings_eq (files : List RawFile) :
    warnings files = (files.map outcomeOf).filterMap Outcome.warning? := by
  rw [warnings, classified, List.filterMap_map, List.filterMap_map, ← List.filterMap_eq_filter,
    List.filterMap_filterMap]
  refine List.filterMap_congr fun f _ => ?_
  rw [Function.comp_apply, outcomeOf]
  cases hskips : skips f <;> cases hid : componentOf? f.fileName <;>
    simp [hskips, hid, Outcome.warning?]

/-- The ids of the components that have examples. -/
theorem mem_ids {files : List RawFile} {id : String} :
    id ∈ Text.ordered ((classified files).filterMap (·.2)) ↔ ∃ f ∈ files, Listed f id := by
  simp [Text.mem_ordered, mem_classified]

theorem nodup_ids (files : List RawFile) :
    (Text.ordered ((classified files).filterMap (·.2))).Nodup :=
  (Text.ordered_pairwise _).imp String.ne_of_lt

/-- **The index holds the examples of its files,** each under its component and as often as it is
given. -/
theorem filedIn_buildIndex (files : List RawFile) :
    (filedIn (buildIndex files)).Perm (files.filterMap filed?) := by
  have hgroup : ∀ id, (examplesOf files id).map (fun e => (id, e)) =
      (files.filterMap filed?).filter fun e => e.1 = id := by
    intro id
    rw [examplesOf_eq, List.map_map]
    refine (List.map_congr_left fun e he => ?_).trans (List.map_id _)
    obtain rfl : e.1 = id := by simpa using (List.mem_filter.mp he).2
    rfl
  have hcovered : ∀ e ∈ files.filterMap filed?,
      e.1 ∈ Text.ordered ((classified files).filterMap (·.2)) := by
    intro e he
    obtain ⟨f, hf, hfiled⟩ := List.mem_filterMap.mp he
    exact mem_ids.mpr ⟨f, hf, (filed?_eq_some.mp hfiled).1⟩
  have hcomponents : (filedIn (buildIndex files)).Perm
      ((Text.ordered ((classified files).filterMap (·.2))).flatMap fun id =>
        (sortByLabel (·.label) (examplesOf files id)).map fun e => (id, e)) := by
    refine ((sortByLabel_perm _ _).flatMap_right _).trans ?_
    rw [List.flatMap_map]
  have hexamples : ((Text.ordered ((classified files).filterMap (·.2))).flatMap fun id =>
        (sortByLabel (·.label) (examplesOf files id)).map fun e => (id, e)).Perm
      ((Text.ordered ((classified files).filterMap (·.2))).flatMap fun id =>
        (files.filterMap filed?).filter fun e => e.1 = id) := by
    refine List.Perm.flatMap_left _ fun id _ => ?_
    rw [← hgroup]
    exact (sortByLabel_perm _ _).map _
  exact hcomponents.trans (hexamples.trans (perm_flatMap_filter _ (nodup_ids files) hcovered))

/-- **Every file is accounted for exactly once.** One thing becomes of each file: it is passed over,
or there is a warning that names it, or it gives one example with its path and its code. The warnings
come in the order of the files, and the index has the examples, each as often as it is given, under
the components that the names of the files say. No two components have the same id and none has no
example; the components are ordered by their labels, and so are the examples of each. -/
theorem files_accounted :
    (∀ f : RawFile, ∃! o, Becomes f o) ∧
    (∀ fileName id, componentOf? fileName = some id ↔ ∃ rest, Says (baseName fileName) id rest) ∧
    ∀ files : List RawFile, ∃ outcomes : List Outcome, List.Forall₂ Becomes files outcomes ∧
      warnings files = outcomes.filterMap Outcome.warning? ∧
      (filedIn (buildIndex files)).Perm (outcomes.filterMap Outcome.filed?) ∧
      ((buildIndex files).components.map (·.id)).Nodup ∧
      ((buildIndex files).components.Pairwise fun c d =>
        (naturalCompare c.label d.label).isLE = true) ∧
      ∀ c ∈ (buildIndex files).components, c.examples ≠ [] ∧
        c.examples.Pairwise fun d e => (naturalCompare d.label e.label).isLE = true := by
  refine ⟨fun f => ⟨outcomeOf f, becomes_iff.mpr rfl, fun _ => becomes_iff.mp⟩,
    fun _ _ => componentOf?_eq_some, fun files => ⟨files.map outcomeOf, ?_, warnings_eq files, ?_,
      ?_, sortByLabel_pairwise _ _, ?_⟩⟩
  · exact List.forall₂_map_right_iff.mpr (List.forall₂_same.mpr fun _ _ => becomes_iff.mpr rfl)
  · rw [List.filterMap_map]
    exact filedIn_buildIndex files
  · have hids : ((buildIndex files).components.map (·.id)).Perm
        (Text.ordered ((classified files).filterMap (·.2))) := by
      refine ((sortByLabel_perm _ _).map _).trans ?_
      rw [List.map_map]
      exact .of_eq (List.map_id _)
    exact hids.nodup_iff.mpr (nodup_ids files)
  · intro c hc
    obtain ⟨id, ⟨f, hf, hlisted⟩, rfl⟩ := mem_components.mp hc
    have hmem : ofFile f id ∈ sortByLabel (·.label) (examplesOf files id) :=
      mem_sortByLabel.mpr (mem_examplesOf.mpr ⟨f, hf, hlisted, rfl⟩)
    exact ⟨List.ne_nil_of_mem hmem, sortByLabel_pairwise _ _⟩

/-! ## Files that are spelled alike -/

/-- Two files that are filed, with names that spell one variant of one component. -/
def SpelledAlike (f g : RawFile) : Prop :=
  ∃ id variant, Listed f id ∧ Listed g id ∧
    Spells (baseName f.fileName) id variant ∧ Spells (baseName g.fileName) id variant

/-- Files of one component are spelled alike exactly if their names say the same variant. -/
theorem spelledAlike_iff {f g : RawFile} : SpelledAlike f g ↔
    ∃ id, Listed f id ∧ Listed g id ∧
      variantOf (baseName f.fileName) id = variantOf (baseName g.fileName) id := by
  constructor
  · rintro ⟨id, variant, hf, hg, hspells, hspells'⟩
    exact ⟨id, hf, hg, hspells.variantOf_eq.trans hspells'.variantOf_eq.symm⟩
  · rintro ⟨id, hf, hg, hvariant⟩
    obtain ⟨rest, hsaid⟩ := componentOf?_eq_some.mp hf.2
    obtain ⟨rest', hsaid'⟩ := componentOf?_eq_some.mp hg.2
    rw [hsaid.variantOf_eq, hsaid'.variantOf_eq] at hvariant
    exact ⟨id, variantOfRest rest, hf, hg, hsaid.spells, hvariant ▸ hsaid'.spells⟩

/-! ## Ids -/

/-- Where two ids of examples are the same, the shorter component goes on with a dash in the
longer one. -/
theorem exists_between {i j x y : String} (h : i ++ "-" ++ x = j ++ "-" ++ y)
    (hlength : i.length < j.length) : ∃ z, j = i ++ "-" ++ z ∧ x = z ++ "-" ++ y := by
  have hlists : i.toList ++ '-' :: x.toList = j.toList ++ '-' :: y.toList := by
    simpa using congrArg String.toList h
  rw [← String.length_toList, ← String.length_toList] at hlength
  rcases List.append_eq_append_iff.mp hlists with ⟨between, hj, hx⟩ | ⟨between, hi, -⟩
  · cases between with
    | nil => rw [hj] at hlength; simp at hlength
    | cons c z =>
      obtain ⟨rfl, hz⟩ := List.cons.inj hx
      exact ⟨String.ofList z, String.toList_inj.mp (by simp [hj]),
        String.toList_inj.mp (by simp [hz])⟩
  · rw [hi, List.length_append] at hlength
    omega

/-- No component is longer than that of a file and stands at the start of its example's id. -/
theorem Says.length_le {base i j r y : String} (h : Says base i r) (hj : j ∈ componentIds)
    (hid : i ++ "-" ++ variantOfRest r = j ++ "-" ++ y) : j.length ≤ i.length := by
  rcases Nat.lt_or_ge i.length j.length with hlt | hge
  · obtain ⟨z, hz, hvariant⟩ := exists_between hid hlt
    -- the demonstration has no dash that could stand behind the longer component
    have hrest : r ≠ "" := by
      rintro rfl
      have hdash : '-' ∈ "demo".toList := by
        have hdemo : "demo" = z ++ "-" ++ y := hvariant
        simp [hdemo]
      exact absurd hdash (by decide)
    rw [variantOfRest, if_neg hrest] at hvariant
    cases h with
    | misspelled =>
      have hids : ∀ j ∈ componentIds, Text.startsWith "date-picker-" j = false := by decide
      have hfront := startsWith_iff.mpr ⟨z, hz⟩
      exact absurd hfront (by simp [hids j hj])
    | longest _ _ hnames hlongest =>
      rcases hnames with ⟨-, hnil⟩ | hbase
      · exact absurd hnil hrest
      · -- the name starts with the longer component, too
        refine hlongest j hj y (.inr ?_)
        rw [hbase, hvariant, hz]
        simp [String.append_assoc]
  · exact hge

/-- **An id is made of one component and one variant.** -/
theorem Says.eq_of_id_eq {base base' i j r r' : String} (h : Says base i r) (h' : Says base' j r')
    (hi : i ∈ componentIds) (hj : j ∈ componentIds)
    (hid : i ++ "-" ++ variantOfRest r = j ++ "-" ++ variantOfRest r') :
    i = j ∧ variantOfRest r = variantOfRest r' := by
  have hlength : i.length = j.length :=
    Nat.le_antisymm (h'.length_le hi hid.symm) (h.length_le hj hid)
  exact Names.unique (.inr rfl) (.inr hid) hlength

/-- **The ids of two examples** are the same exactly if their files are spelled alike. -/
theorem id_ofFile_eq_iff {f g : RawFile} {i j : String} (hf : Listed f i) (hg : Listed g j) :
    (ofFile f i).id = (ofFile g j).id ↔ SpelledAlike f g := by
  obtain ⟨r, hsaid⟩ := componentOf?_eq_some.mp hf.2
  obtain ⟨r', hsaid'⟩ := componentOf?_eq_some.mp hg.2
  rw [spelledAlike_iff]
  constructor
  · intro hid
    rw [ofFile_eq_exampleIn hsaid, ofFile_eq_exampleIn hsaid'] at hid
    obtain ⟨rfl, hvariant⟩ :=
      hsaid.eq_of_id_eq hsaid' hf.mem_componentIds hg.mem_componentIds hid
    exact ⟨i, hf, hg, by rw [hsaid.variantOf_eq, hsaid'.variantOf_eq, hvariant]⟩
  · rintro ⟨id, hf', hg', hvariant⟩
    obtain rfl : i = id := Option.some.inj (hf.2.symm.trans hf'.2)
    obtain rfl : j = i := Option.some.inj (hg.2.symm.trans hg'.2)
    simp only [ofFile, hvariant]

/-! ## Finding examples -/

theorem map_filedIn (i : ExampleIndex) :
    (filedIn i).map (·.2) = i.components.flatMap (·.examples) := by
  simp [filedIn, List.map_flatMap, Function.comp_def]

/-- The ids in an index are those that its files give. -/
theorem perm_ids (files : List RawFile) :
    (((buildIndex files).components.flatMap (·.examples)).map (·.id)).Perm
      ((files.filterMap filed?).map fun e => e.2.id) := by
  rw [← map_filedIn, List.map_map]
  exact (filedIn_buildIndex files).map _

/-- The ids in an index are distinct exactly if no two of its files are spelled alike. -/
theorem nodup_ids_iff (files : List RawFile) :
    (((buildIndex files).components.flatMap (·.examples)).map (·.id)).Nodup ↔
      files.Pairwise fun f g => ¬ SpelledAlike f g := by
  rw [(perm_ids files).nodup_iff, List.Nodup, List.pairwise_map, List.pairwise_filterMap]
  refine List.Pairwise.iff_of_mem fun {f g} _ _ => ?_
  constructor
  · rintro hne ⟨i, variant, hf, hg, hspells⟩
    have hid := (id_ofFile_eq_iff hf hg).mpr ⟨i, variant, hf, hg, hspells⟩
    exact hne _ (filed?_eq_some.mpr ⟨hf, rfl⟩) _ (filed?_eq_some.mpr ⟨hg, rfl⟩) hid
  · rintro hapart ⟨i, d⟩ hd ⟨j, e⟩ he heq
    obtain ⟨hf, rfl⟩ := filed?_eq_some.mp hd
    obtain ⟨hg, rfl⟩ := filed?_eq_some.mp he
    exact hapart ((id_ofFile_eq_iff hf hg).mp heq)

theorem find?_of_nodup {es : List Example} (h : (es.map (·.id)).Nodup) {e : Example}
    (he : e ∈ es) : es.find? (fun d => d.id = e.id) = some e := by
  induction es with
  | nil => exact absurd he List.not_mem_nil
  | cons d es ih =>
    obtain ⟨hd, hes⟩ := List.nodup_cons.mp h
    rcases List.mem_cons.mp he with rfl | he
    · simp
    · have hne : d.id ≠ e.id := fun heq => hd (List.mem_map.mpr ⟨e, he, heq.symm⟩)
      rw [List.find?_cons_of_neg (by simpa using hne), ih hes he]

/-- **Ids of examples.** The ids in the index of some files are distinct exactly if no two of the
files are spelled alike, and then each example is found by its id. -/
theorem ids_distinct_iff (files : List RawFile) :
    ((((buildIndex files).components.flatMap (·.examples)).map (·.id)).Nodup ↔
      files.Pairwise fun f g => ¬ SpelledAlike f g) ∧
    ((files.Pairwise fun f g => ¬ SpelledAlike f g) →
      ∀ e ∈ (buildIndex files).components.flatMap (·.examples),
        (buildIndex files).example? e.id = some e) :=
  ⟨nodup_ids_iff files, fun h _ he => find?_of_nodup ((nodup_ids_iff files).mpr h) he⟩

/-- Names that are spelled out, a bare one, a misspelled one and one of a file that is passed over
stay apart. -/
theorem ids_distinct_of_five_files :
    let files : List RawFile := [⟨"button-a.tsx", "a", "x"⟩, ⟨"button.tsx", "b", "x"⟩,
      ⟨"data-picker-a.tsx", "c", "x"⟩, ⟨"date-picker-b.tsx", "d", "x"⟩, ⟨"button-rtl.tsx", "e", "x"⟩]
    (files.Pairwise fun f g => ¬ SpelledAlike f g) ∧
      ∀ e ∈ (buildIndex files).components.flatMap (·.examples),
        (buildIndex files).example? e.id = some e := by
  intro files
  have hids : (((buildIndex files).components.flatMap (·.examples)).map (·.id)).Nodup :=
    (perm_ids files).nodup_iff.mpr (by decide +kernel)
  have happart := (ids_distinct_iff files).1.mp hids
  exact ⟨happart, (ids_distinct_iff files).2 happart⟩

/-- Different names do not always give different ids: a bare name spells the demonstration. -/
theorem ids_repeated_of_bare_name :
    ¬ ∀ files : List RawFile, (files.map (·.fileName)).Nodup →
      (∀ f ∈ files, Text.endsWith ".tsx" f.fileName = true) →
      (((buildIndex files).components.flatMap (·.examples)).map (·.id)).Nodup := by
  intro h
  have hids := h [⟨"kbd.tsx", "src/kbd.tsx", "a"⟩, ⟨"kbd-demo.tsx", "src/kbd-demo.tsx", "b"⟩]
    (by decide) (by decide +kernel)
  exact absurd ((perm_ids _).nodup_iff.mp hids) (by decide +kernel)

end LivePreview.Example
