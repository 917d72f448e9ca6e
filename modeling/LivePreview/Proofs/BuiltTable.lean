import LivePreview.Proofs.TableLookup
/-!
# Tables that are built step by step

A table is built by steps that register keys, allow prefixes and list names. Steps may come again
and take back each other's URLs, but nothing that a step registered, allowed or listed is ever lost,
so what a table answers can be read off its steps (`table_answers`). The invariant is `Built`.
-/
namespace LivePreview

/-- A step in building a table. -/
inductive TableStep where
  | package (name version : String) (external : Bool)
  | packageWithSubpaths (name version : String)
  | localModule (specifier url : String)
  | uiPrimitives (names : List String) (bundle : String)
  | allowPrefix (text : String)
  | withFallback (template : String)
deriving DecidableEq

namespace TableStep

def apply (t : ImportTable) : TableStep → ImportTable
  | package name version external => t.package name version external
  | packageWithSubpaths name version => t.packageWithSubpaths name version
  | localModule specifier url => t.localModule specifier url
  | uiPrimitives names bundle => t.uiPrimitives names bundle
  | allowPrefix text => t.allowPrefix text
  | withFallback template => t.withFallback template

/-- The keys that a step registers and their URLs, for packages on a host. -/
def entries (cdn : String) : TableStep → List (String × String)
  | package name version external =>
    [(name, cdn ++ "/" ++ name ++ "@" ++ version ++
      if external then ImportTable.externalQuery else "")]
  | packageWithSubpaths name version =>
    [(name ++ "/", cdn ++ "/" ++ name ++ "@" ++ version ++ "/"),
      (name, cdn ++ "/" ++ name ++ "@" ++ version)]
  | localModule specifier url => [(specifier, url)]
  | uiPrimitives names bundle => names.map fun n => (ImportTable.uiNamespace ++ n, bundle)
  | allowPrefix _ => []
  | withFallback _ => []

/-- What starts with one of these is allowed by a step, whether it is registered or not. -/
def prefixes : TableStep → List String
  | uiPrimitives _ _ => [ImportTable.uiNamespace]
  | allowPrefix text => [text]
  | _ => []

/-- How a prefix is listed. -/
def shown (text : String) : String := if Text.endsWith "/" text then text ++ "*" else text

/-- What a step lists. -/
def names : TableStep → List String
  | package name _ _ => [name]
  | packageWithSubpaths name _ => [name]
  | localModule specifier _ => [specifier]
  | uiPrimitives _ _ => [shown ImportTable.uiNamespace]
  | allowPrefix text => [shown text]
  | withFallback _ => []

end TableStep

/-- The table that some steps build for packages on a host. -/
def ImportTable.built (cdn : String) (steps : List TableStep) : ImportTable :=
  steps.foldl TableStep.apply (.empty cdn)

/-! ## Listing -/

/-- A list has all of some names, each once, in the order in which they came first. -/
structure Lists (names listed : List String) : Prop where
  mem : ∀ n, n ∈ listed ↔ n ∈ names
  order : listed.Pairwise fun a b => names.idxOf a < names.idxOf b

theorem lists_nil : Lists [] [] := ⟨fun _ => Iff.rfl, List.Pairwise.nil⟩

theorem Lists.concat {names listed : List String} (h : Lists names listed) (n : String) :
    Lists (names ++ [n]) (if listed.contains n then listed else listed ++ [n]) := by
  have hidx : ∀ a ∈ listed, (names ++ [n]).idxOf a = names.idxOf a := fun a ha => by
    rw [List.idxOf_append, if_pos ((h.mem a).mp ha)]
  have horder : listed.Pairwise fun a b => (names ++ [n]).idxOf a < (names ++ [n]).idxOf b :=
    h.order.imp_of_mem fun ha hb hlt => by rwa [hidx _ ha, hidx _ hb]
  split
  · rename_i hn
    refine ⟨fun m => ?_, horder⟩
    have hmem : n ∈ names := (h.mem n).mp (by simpa using hn)
    rw [h.mem m, List.mem_append, List.mem_singleton]
    exact ⟨.inl, fun hm => hm.elim id fun heq => heq ▸ hmem⟩
  · rename_i hn
    have hnot : n ∉ names := fun hmem => hn (by simpa using (h.mem n).mpr hmem)
    refine ⟨fun m => by simp [h.mem m], List.pairwise_append.mpr ⟨horder, ?_, fun a ha b hb => ?_⟩⟩
    · exact List.pairwise_singleton _ _
    · obtain rfl := List.mem_singleton.mp hb
      have hlt : names.idxOf a < names.length := List.idxOf_lt_length_of_mem ((h.mem a).mp ha)
      rw [hidx a ha, List.idxOf_append, if_neg hnot]
      omega

/-! ## What a step changes -/

namespace ImportTable

/-- What was registered, allowed and listed so far is what the table holds. -/
structure Built (cdn : String) (entries : List (String × String)) (prefixes names : List String)
    (t : ImportTable) : Prop where
  cdn_eq : t.cdn = cdn
  entries_eq : t.entries = (ImportMap.ofList entries).entries
  mem_prefixes : ∀ p, p ∈ t.prefixes ↔ p ∈ prefixes
  shown_mem : ∀ p ∈ prefixes, TableStep.shown p ∈ names
  lists : Lists names t.summary

variable {cdn : String} {entries : List (String × String)} {prefixes names : List String}
  {t : ImportTable}

theorem built_empty (cdn : String) : Built (withoutSlashes cdn) [] [] [] (empty cdn) :=
  ⟨rfl, rfl, fun _ => Iff.rfl, fun _ h => absurd h List.not_mem_nil, lists_nil⟩

theorem Built.set (h : Built cdn entries prefixes names t) (key url : String) :
    Built cdn (entries ++ [(key, url)]) prefixes names (t.set key url) :=
  ⟨h.cdn_eq, by rw [ImportMap.ofList_concat, ← h.entries_eq]; rfl, h.mem_prefixes, h.shown_mem,
    h.lists⟩

theorem Built.note (h : Built cdn entries prefixes names t) (n : String) :
    Built cdn entries prefixes (names ++ [n]) (t.note n) := by
  have hlists := h.lists.concat n
  have hshown : ∀ p ∈ prefixes, TableStep.shown p ∈ names ++ [n] := fun p hp =>
    List.mem_append_left _ (h.shown_mem p hp)
  unfold ImportTable.note
  split at hlists
  · rename_i hn
    rw [if_pos hn]
    exact ⟨h.cdn_eq, h.entries_eq, h.mem_prefixes, hshown, hlists⟩
  · rename_i hn
    rw [if_neg hn]
    exact ⟨h.cdn_eq, h.entries_eq, h.mem_prefixes, hshown, hlists⟩

/-- Listing a name leaves the prefixes alone. -/
theorem note_withPrefixes (ps : List String) (n : String) :
    ({ t with prefixes := ps } : ImportTable).note n = { t.note n with prefixes := ps } := by
  unfold ImportTable.note
  split <;> rfl

/-- A prefix that comes again is listed already. -/
theorem Built.allowPrefix (h : Built cdn entries prefixes names t) (p : String) :
    Built cdn entries (prefixes ++ [p]) (names ++ [TableStep.shown p]) (t.allowPrefix p) := by
  have hshown : ∀ q ∈ prefixes ++ [p], TableStep.shown q ∈ names ++ [TableStep.shown p] := by
    intro q hq
    rcases List.mem_append.mp hq with hq | hq
    · exact List.mem_append_left _ (h.shown_mem q hq)
    · rw [List.mem_singleton.mp hq]
      exact List.mem_append_right _ List.mem_cons_self
  unfold ImportTable.allowPrefix
  split
  · rename_i hp
    have hmem : p ∈ prefixes := (h.mem_prefixes p).mp (by simpa using hp)
    have hlists := h.lists.concat (TableStep.shown p)
    rw [if_pos (by simpa using (h.lists.mem _).mpr (h.shown_mem p hmem))] at hlists
    refine ⟨h.cdn_eq, h.entries_eq, fun q => ?_, hshown, hlists⟩
    rw [h.mem_prefixes, List.mem_append, List.mem_singleton]
    exact ⟨.inl, fun hq => hq.elim id fun heq => heq ▸ hmem⟩
  · have hnoted := h.note (TableStep.shown p)
    have hmem : ∀ q, q ∈ t.prefixes ++ [p] ↔ q ∈ prefixes ++ [p] := fun q => by
      simp [h.mem_prefixes]
    have hnote : (if Text.endsWith "/" p then p ++ "*" else p) = TableStep.shown p := rfl
    rw [hnote, note_withPrefixes]
    exact ⟨hnoted.cdn_eq, hnoted.entries_eq, hmem, hshown, hnoted.lists⟩

/-- Several keys are registered one after the other. -/
theorem Built.setAll (h : Built cdn entries prefixes names t) {α : Type} (f : α → String × String)
    (as : List α) :
    Built cdn (entries ++ as.map f) prefixes names
      (as.foldl (fun t a => t.set (f a).1 (f a).2) t) := by
  induction as generalizing entries t with
  | nil => simpa using h
  | cons a r ih =>
    rw [List.map_cons, List.append_cons]
    exact ih (h.set (f a).1 (f a).2)

/-- A step adds what it registers, allows and lists. -/
theorem Built.apply (h : Built cdn entries prefixes names t) (step : TableStep) :
    Built cdn (entries ++ step.entries cdn) (prefixes ++ step.prefixes) (names ++ step.names)
      (step.apply t) := by
  obtain rfl := h.cdn_eq
  cases step with
  | package name version external =>
    simpa [TableStep.entries, TableStep.prefixes, TableStep.names, TableStep.apply, package] using
      (h.set name _).note name
  | packageWithSubpaths name version =>
    simpa [TableStep.entries, TableStep.prefixes, TableStep.names, TableStep.apply,
      packageWithSubpaths] using ((h.set (name ++ "/") _).set name _).note name
  | localModule specifier url =>
    simpa [TableStep.entries, TableStep.prefixes, TableStep.names, TableStep.apply,
      localModule] using (h.set specifier url).note specifier
  | uiPrimitives primitives bundle =>
    exact (h.setAll (fun n => (uiNamespace ++ n, bundle)) primitives).allowPrefix uiNamespace
  | allowPrefix text =>
    simpa [TableStep.entries, TableStep.prefixes, TableStep.names, TableStep.apply] using
      h.allowPrefix text
  | withFallback template =>
    simpa [TableStep.entries, TableStep.prefixes, TableStep.names, TableStep.apply,
      withFallback] using (⟨h.cdn_eq, h.entries_eq, h.mem_prefixes, h.shown_mem, h.lists⟩ :
        Built t.cdn entries prefixes names { t with fallbackTemplate := template })

theorem built_built (cdn : String) (steps : List TableStep) :
    Built (withoutSlashes cdn) (steps.flatMap (·.entries (withoutSlashes cdn)))
      (steps.flatMap (·.prefixes)) (steps.flatMap (·.names)) (built cdn steps) := by
  induction steps using List.reverseRecOn with
  | nil => exact built_empty cdn
  | append_singleton r step ih => simpa [built] using ih.apply step

/-! ## What a table answers -/

/-- What registered keys make of a specifier: the URL that came last for it. If it is no key, what
stands behind the longest key that covers it leads below the URL of that key. -/
def Resolves (entries : List (String × String)) (specifier url : String) : Prop :=
  LastFor entries specifier url ∨
    (∀ e ∈ entries, e.1 ≠ specifier) ∧
      ∃ key base rest, LastFor entries key base ∧ Text.endsWith "/" key = true ∧
        specifier = key ++ rest ∧ url = base ++ rest ∧
        ∀ e ∈ entries, Covers e specifier → e.1.utf8ByteSize ≤ key.utf8ByteSize

variable {specifier key url : String}

namespace Built

theorem inOrder (h : Built cdn entries prefixes names t) : ImportMap.InOrder t.entries :=
  h.entries_eq ▸ ImportMap.ofList_inOrder entries

theorem mem_entries (h : Built cdn entries prefixes names t) :
    (key, url) ∈ t.entries ↔ LastFor entries key url := by
  rw [h.entries_eq, ImportMap.mem_ofList]

theorem entry?_eq_some (h : Built cdn entries prefixes names t) :
    t.entry? key = some url ↔ LastFor entries key url := by
  rw [ImportTable.entry?_eq_some h.inOrder, h.mem_entries]

theorem entry?_eq_none (h : Built cdn entries prefixes names t) :
    t.entry? specifier = none ↔ ∀ e ∈ entries, e.1 ≠ specifier := by
  constructor
  · rintro hnone e he rfl
    obtain ⟨url, hurl⟩ := exists_lastFor he
    rw [h.entry?_eq_some.mpr hurl] at hnone
    cases hnone
  · intro hne
    cases hentry : t.entry? specifier with
    | none => rfl
    | some url => exact absurd rfl (hne _ (h.entry?_eq_some.mp hentry).mem)

/-- A key covers a specifier in the table if it was ever registered. -/
theorem forall_covers (h : Built cdn entries prefixes names t) (n : Nat) :
    (∀ e ∈ t.entries, Covers e specifier → e.1.utf8ByteSize ≤ n) ↔
      ∀ e ∈ entries, Covers e specifier → e.1.utf8ByteSize ≤ n := by
  constructor
  · intro hall e he hcovers
    obtain ⟨url, hurl⟩ := exists_lastFor he
    exact hall (e.1, url) (h.mem_entries.mpr hurl) hcovers
  · rintro hall ⟨key, url⟩ he hcovers
    exact hall (key, url) (h.mem_entries.mp he).mem hcovers

theorem resolve?_eq_some (h : Built cdn entries prefixes names t) :
    t.resolve? specifier = some url ↔ Resolves entries specifier url := by
  constructor
  · intro hresolve
    cases hentry : t.entry? specifier with
    | some found =>
      obtain rfl : found = url := by simpa [resolve?, hentry] using hresolve
      exact .inl (h.entry?_eq_some.mp hentry)
    | none =>
      cases hlongest : t.longestPrefix? specifier with
      | none => simp [resolve?, hentry, hlongest] at hresolve
      | some e =>
        obtain ⟨rest, hspecifier, hurl⟩ := resolve?_below hentry hlongest
        obtain ⟨hmem, hcovers, hmax⟩ := (longestPrefix?_eq_some h.inOrder).mp hlongest
        have heq : url = e.2 ++ rest := Option.some.inj (hresolve.symm.trans hurl)
        exact .inr ⟨h.entry?_eq_none.mp hentry, e.1, e.2, rest, h.mem_entries.mp hmem, hcovers.1,
          hspecifier, heq, (h.forall_covers _).mp hmax⟩
  · rintro (hlast | ⟨hne, key, base, rest, hlast, hslash, rfl, rfl, hmax⟩)
    · simp [resolve?, h.entry?_eq_some.mpr hlast]
    · have hstarts : Text.after? key (key ++ rest) = some rest := Text.after?_eq_some.mpr rfl
      have hcovers : Covers (key, base) (key ++ rest) :=
        ⟨hslash, by simp [Text.startsWith, hstarts]⟩
      have hlongest := (longestPrefix?_eq_some h.inOrder).mpr
        ⟨h.mem_entries.mpr hlast, hcovers, (h.forall_covers _).mpr hmax⟩
      simp [resolve?, h.entry?_eq_none.mpr hne, hlongest, hstarts]

end Built

theorem resolve?_isSome :
    (t.resolve? specifier).isSome =
      ((t.entry? specifier).isSome || (t.longestPrefix? specifier).isSome) := by
  cases hentry : t.entry? specifier with
  | some url => simp [resolve?, hentry]
  | none =>
    cases hlongest : t.longestPrefix? specifier with
    | none => simp [resolve?, hentry, hlongest]
    | some e =>
      obtain ⟨rest, -, hrest⟩ := resolve?_below hentry hlongest
      simp [hrest]

/-- What has a URL is allowed, and what starts with an allowed prefix. -/
theorem isAllowed_iff (t : ImportTable) (specifier : String) :
    t.isAllowed specifier = true ↔
      (t.resolve? specifier).isSome = true ∨
        ∃ p ∈ t.prefixes, Text.startsWith p specifier = true := by
  rw [isAllowed, ← resolve?_isSome]
  simp

theorem fallback?_isSome (t : ImportTable) (specifier : String) :
    (t.fallback? specifier).isSome = true ↔
      isBarePackage specifier = true ∧ t.resolve? specifier = none := by
  unfold fallback?
  split
  · rename_i h
    simpa using h
  · rename_i h
    simpa using h

theorem startsWith_shown (p : String) : Text.startsWith p (TableStep.shown p) = true := by
  rw [Text.startsWith_eq_true, TableStep.shown]
  split
  · rw [String.toList_append]
    exact List.prefix_append _ _
  · exact List.prefix_rfl

/-- What a step lists is registered or allowed by it. -/
theorem mem_names_cases (cdn : String) {step : TableStep} {n : String} (h : n ∈ step.names) :
    (∃ url, (n, url) ∈ step.entries cdn) ∨ ∃ p ∈ step.prefixes, Text.startsWith p n = true := by
  cases step with
  | package name version external =>
    obtain rfl := List.mem_singleton.mp h
    exact .inl ⟨_, List.mem_cons_self⟩
  | packageWithSubpaths name version =>
    obtain rfl := List.mem_singleton.mp h
    exact .inl ⟨_, List.mem_cons_of_mem _ List.mem_cons_self⟩
  | localModule specifier url =>
    obtain rfl := List.mem_singleton.mp h
    exact .inl ⟨_, List.mem_cons_self⟩
  | uiPrimitives primitives bundle =>
    obtain rfl := List.mem_singleton.mp h
    exact .inr ⟨_, List.mem_cons_self, startsWith_shown _⟩
  | allowPrefix text =>
    obtain rfl := List.mem_singleton.mp h
    exact .inr ⟨_, List.mem_cons_self, startsWith_shown _⟩
  | withFallback template => cases h

/-- **The answers of a table agree.** Behind any steps a specifier resolves to what the registered
keys make of it; it is allowed if it has a URL or starts with an allowed prefix; it has a fallback
URL if it is a package without a URL; and the list has all names of the steps, each once and in the
order in which they came first, all of which are allowed. -/
theorem table_answers (cdn : String) (steps : List TableStep) (specifier : String) :
    (∀ url, (built cdn steps).resolve? specifier = some url ↔
        Resolves (steps.flatMap (·.entries (withoutSlashes cdn))) specifier url) ∧
      ((built cdn steps).isAllowed specifier = true ↔
        ((built cdn steps).resolve? specifier).isSome = true ∨
          ∃ p ∈ steps.flatMap (·.prefixes), Text.startsWith p specifier = true) ∧
      (((built cdn steps).fallback? specifier).isSome = true ↔
        isBarePackage specifier = true ∧ (built cdn steps).resolve? specifier = none) ∧
      ∃ listed, (built cdn steps).allowedList = Text.joinWith ", " listed ∧
        Lists (steps.flatMap (·.names)) listed ∧
        ∀ n ∈ listed, (built cdn steps).isAllowed n = true := by
  have h := built_built cdn steps
  have hallowed (specifier : String) : (built cdn steps).isAllowed specifier = true ↔
      ((built cdn steps).resolve? specifier).isSome = true ∨
        ∃ p ∈ steps.flatMap (·.prefixes), Text.startsWith p specifier = true := by
    rw [isAllowed_iff]
    simp only [h.mem_prefixes]
  refine ⟨fun url => h.resolve?_eq_some, hallowed specifier, fallback?_isSome _ _, _, rfl, h.lists,
    fun n hn => (hallowed n).mpr ?_⟩
  obtain ⟨step, hstep, hname⟩ := List.mem_flatMap.mp ((h.lists.mem n).mp hn)
  rcases mem_names_cases (withoutSlashes cdn) hname with ⟨url, hurl⟩ | ⟨p, hp, hstarts⟩
  · obtain ⟨last, hlast⟩ := exists_lastFor (List.mem_flatMap.mpr ⟨step, hstep, hurl⟩)
    exact .inl (by rw [h.resolve?_eq_some.mpr (.inl hlast)]; rfl)
  · exact .inr ⟨p, List.mem_flatMap.mpr ⟨step, hstep, hp⟩, hstarts⟩

/-- A package that comes again is listed where it came first, in the version that came last. -/
example :
    let t := built "https://x/"
      [.packageWithSubpaths "a" "1", .allowPrefix "./", .package "a" "2" false]
    t.allowedList = "a, ./*" ∧ t.resolve? "a" = some "https://x/a@2" ∧
      t.resolve? "a/b" = some "https://x/a@1/b" ∧ t.resolve? "./b" = none := by decide

end ImportTable

end LivePreview
