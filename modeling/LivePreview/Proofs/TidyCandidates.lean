import LivePreview.Proofs.Members
import LivePreview.Proofs.RuleText
import LivePreview.Proofs.VariantStacks
import LivePreview.Text.Blank
/-!
# Tidy candidates

A candidate is tidy if all that it writes out is closed: the value of its class, and the selectors
of its variants (`Candidate.Tidy`). A candidate that writes nothing out is tidy
(`tidy_of_ordinary`). The rule of a tidy candidate is one block with all its brackets closed, and so
is the layer of the rules of tidy candidates, in which every rule stands directly inside of the
layer's block, whatever the other rules are (`rules_stay_apart`).

When a candidate is taken apart, its brackets are only counted. A value that closes its brackets in
the wrong order, or closes what it did not open, therefore gets into the stylesheet
(`rule_of_crossing_brackets`).
-/
namespace LivePreview.Style

/-! ## Candidates -/

/-- Whether all that a candidate writes out is closed. -/
structure Candidate.Tidy (c : Candidate) : Prop where
  variants : ∀ name ∈ c.variants, ∀ v ∈ Variant.parse? name, v.Sound
  value : Clean c.base

/-- Whether all that a text writes out is closed, if it is a candidate. -/
def Tidy (candidate : String) : Prop := ∀ c ∈ Candidate.parse? candidate, c.Tidy

instance (v : Variant) : Decidable v.Sound := by
  cases v <;> (unfold Variant.Sound; infer_instance)

instance (c : Candidate) : Decidable c.Tidy :=
  decidable_of_iff ((∀ name ∈ c.variants, ∀ v ∈ Variant.parse? name, v.Sound) ∧
    ∀ v ∈ written c.base, Complete v) ⟨fun ⟨hv, hb⟩ => ⟨hv, hb⟩, fun ⟨hv, hb⟩ => ⟨hv, hb⟩⟩

instance (candidate : String) : Decidable (Tidy candidate) :=
  inferInstanceAs (Decidable (∀ c ∈ Candidate.parse? candidate, c.Tidy))

/-! ## Candidates that write nothing out -/

section
variable {a b s t : String} {v : Variant}

theorem Ordinary.after? (h : Ordinary s) (hafter : Text.after? a s = some t) : Ordinary t :=
  (ordinary_append.mp (Text.after?_eq_some.mp hafter ▸ h)).2

theorem Ordinary.bracketed? (h : Ordinary s) : Variant.bracketed? s = none := by
  have hinside : inside? "[" "]" s = none := by
    rw [Option.eq_none_iff_forall_ne_some]
    intro t ht
    rw [inside?_eq_some.mp ht] at h
    exact absurd ((ordinary_append.mp h).1 '[' (by simp)) (by decide)
  rw [Variant.bracketed?, hinside]
  rfl

theorem Ordinary.flat_attribute? {family : String} (h : Ordinary s) (hfamily : Ordinary family)
    (hattribute : Variant.attribute? family s = some t) : Flat t := by
  have hflat : ∀ {name}, Ordinary name → Flat ("[" ++ family ++ "-" ++ name ++ "]") := by
    intro name hname
    have hinner : Complete (family ++ "-" ++ name) :=
      .of_closed ((hfamily.flat.append (by decide)).append hname.flat)
    have hbrackets : Encloses 0 "[" "]" := by decide
    simpa only [String.append_assoc] using hinner.enclosed hbrackets
  rw [Variant.attribute?] at hattribute
  split at hattribute
  · rename_i inner hinner
    split at hattribute
    · cases hattribute
    obtain rfl := Option.some.inj hattribute
    rw [inside?_eq_some.mp hinner] at h
    exact hflat (ordinary_append.mp (ordinary_append.mp h).2).1
  · split at hattribute
    · cases hattribute
    obtain rfl := Option.some.inj hattribute
    exact hflat h

theorem Ordinary.flat_state? (h : Ordinary s) (hstate : Variant.state? s = some t) : Flat t := by
  have hstates : ∀ e ∈ Variant.states, Flat e.2 := by decide
  rw [Variant.state?] at hstate
  split at hstate
  · rename_i selector hselector
    obtain rfl := Option.some.inj hstate
    exact of_find?_map (fun _ => Flat) hselector hstates
  split at hstate
  · rename_i name hafter
    exact (h.after? hafter).flat_attribute? (by decide) hstate
  split at hstate
  · rename_i name hafter
    have hname : Ordinary name := h.after? hafter
    split at hstate
    · exact hname.flat_attribute? (by decide) hstate
    split at hstate
    · cases hstate
    obtain rfl := Option.some.inj hstate
    have hbrackets : Encloses 0 "[aria-" "=\"true\"]" := by decide
    exact (Complete.of_closed hname.flat).enclosed hbrackets
  split at hstate
  · rename_i inner hafter
    obtain ⟨selector, hcontained, rfl⟩ := Option.map_eq_some_iff.mp hstate
    rw [Variant.contained?, (h.after? hafter).bracketed?] at hcontained
    obtain ⟨state, hlookup, rfl⟩ := Option.map_eq_some_iff.mp hcontained
    have hselector : Flat ("*" ++ state) :=
      Flat.append (by decide) (of_find?_map (fun _ => Flat) hlookup hstates)
    have hhas : Encloses 0 ":has(" ")" := by decide
    exact (Complete.of_closed hselector).enclosed hhas
  · cases hstate

theorem Ordinary.sound_of_parse? (h : Ordinary s) (hv : Variant.parse? s = some v) : v.Sound := by
  cases Variant.Reads.of_parse? hv with
  | state hstate => exact h.flat_state? hstate
  | part hpart => exact of_find?_map (fun _ => Flat) hpart (by decide)
  | group hname hstate => exact (ordinary_append.mp (hname ▸ h)).2.flat_state? hstate
  | peer hname hstate => exact (ordinary_append.mp (hname ▸ h)).2.flat_state? hstate
  | dark => trivial
  | width hmem => exact (by decide : ∀ w ∈ Variant.widths, Flat w.2.2) _ hmem
  | template hbracketed _ =>
    rw [h.bracketed?] at hbracketed
    cases hbracketed

end

namespace Candidate

/-- Cutting a candidate adds nothing to it. -/
theorem mem_of_mem_segments {depth : Int} {s segment : List Char} {c : Char}
    (h : segment ∈ segments depth s) (hc : c ∈ segment) : c ∈ s := by
  induction s generalizing depth segment with
  | nil =>
    obtain rfl : segment = [] := by simpa [segments] using h
    exact hc
  | cons d r ih =>
    rw [segments] at h
    split at h
    · rcases List.mem_cons.mp h with rfl | h
      · cases hc
      · exact List.mem_cons_of_mem d (ih h hc)
    split at h
    · obtain rfl := List.mem_singleton.mp h
      obtain rfl := List.mem_singleton.mp hc
      exact List.mem_cons_self
    · rename_i first rest hsegments
      rcases List.mem_cons.mp h with rfl | h
      · rcases List.mem_cons.mp hc with rfl | hc
        · exact List.mem_cons_self
        · exact List.mem_cons_of_mem d (ih (hsegments ▸ List.mem_cons_self) hc)
      · exact List.mem_cons_of_mem d (ih (hsegments ▸ List.mem_cons_of_mem first h) hc)

theorem ordinary_unmark {s : String} (h : Ordinary s) : Ordinary (unmark s).1 := by
  rw [unmark]
  split
  · rename_i base hafter
    exact h.after? hafter
  split
  · rename_i base hbefore
    exact (ordinary_append.mp (Text.before?_eq_some.mp hbefore ▸ h)).1
  · exact h

theorem ordinary_of_parse? {s : String} {c : Candidate} (h : Ordinary s) (hc : parse? s = some c) :
    (∀ name ∈ c.variants, Ordinary name) ∧ Ordinary c.base := by
  -- the class and the names of its variants are segments of the candidate
  have hparts : ∀ part ∈ (segments 0 s.toList).map String.ofList, Ordinary part := by
    intro part hpart d hd
    obtain ⟨segment, hsegment, rfl⟩ := List.mem_map.mp hpart
    rw [String.toList_ofList] at hd
    exact h d (mem_of_mem_segments hsegment hd)
  rw [parse?] at hc
  dsimp only at hc
  split at hc
  · cases hc
  obtain rfl := Option.some.inj hc
  refine ⟨fun name hname => ?_, ordinary_unmark ?_⟩
  · exact hparts name ((List.dropLast_sublist _).subset hname)
  cases hlast : ((segments 0 s.toList).map String.ofList).getLast? with
  | none => exact (by decide : Ordinary "")
  | some last => exact hparts last (List.mem_of_getLast? hlast)

end Candidate

/-- **A candidate without brackets, quotes and backslashes is tidy.** -/
theorem tidy_of_ordinary {candidate : String} (h : Ordinary candidate) : Tidy candidate := by
  intro c hc
  obtain ⟨hvariants, hbase⟩ := Candidate.ordinary_of_parse? h hc
  exact ⟨fun name hname v hv => (hvariants name hname).sound_of_parse? hv,
    clean_of_unopened hbase.unopened⟩

namespace Compiler

variable {c : Compiler} {candidate : String} {candidates : List String} {rule : Rule}

/-- What the rule of a candidate is made of. -/
theorem exists_of_resolve? (h : c.resolve? candidate = some rule) :
    ∃ parsed utility vs, Candidate.parse? candidate = some parsed ∧
      utility? c.names parsed.base = some utility ∧
      parsed.variants.mapM Variant.parse? = some vs ∧
      rule =
        let scope := Scope.ofStack c.darkVariant (Selector.ofClass candidate) vs
        { selector := scope.selector ++ utility.child.getD ""
          declarations := markImportant parsed.important utility.declarations
          media := scope.media
          rank := scope.rank } := by
  obtain ⟨parsed, hparsed, h⟩ := Option.bind_eq_some_iff.mp h
  obtain ⟨utility, hutility, h⟩ := Option.bind_eq_some_iff.mp h
  obtain ⟨scope, hscope, h⟩ := Option.bind_eq_some_iff.mp h
  obtain ⟨vs, hvs, rfl⟩ := Option.map_eq_some_iff.mp hscope
  exact ⟨parsed, utility, vs, hparsed, hutility, hvs, (Option.some.inj h).symm⟩

theorem sound_of_resolve? (hnames : c.names.Flat) (hdark : Frame c.darkVariant)
    (htidy : Tidy candidate) (h : c.resolve? candidate = some rule) : rule.Sound := by
  obtain ⟨parsed, utility, vs, hparsed, hutility, hvs, rfl⟩ := exists_of_resolve? h
  obtain ⟨hvariants, hvalue⟩ := htidy parsed hparsed
  obtain ⟨hdeclarations, hchild⟩ := Utility.sound_of_utility? hnames hvalue hutility
  have hsound : ∀ v ∈ vs, v.Sound := by
    intro v hv
    obtain ⟨name, hname, hread⟩ := exists_mem_of_mapM hvs hv
    exact hvariants name hname v hread
  obtain ⟨hselector, hmedia⟩ := Scope.sound_ofStack hdark (flat_ofClass candidate) hsound
  have hchildren : Flat (utility.child.getD "") := by
    cases hc : utility.child with
    | none => decide
    | some t => exact hchild t hc
  -- the mark of an important class is put behind the values
  refine ⟨hselector.append hchildren, ?_, hmedia⟩
  intro d hd
  dsimp only [markImportant] at hd
  split at hd
  · obtain ⟨e, he, rfl⟩ := List.mem_map.mp hd
    obtain ⟨hproperty, hvalue⟩ := hdeclarations e he
    exact ⟨hproperty, hvalue.append ⟨0, by decide⟩⟩
  · exact hdeclarations d hd

/-- The names that a theme publishes are parts of the names of its tokens. -/
theorem flat_names {t : Theme} (h : ∀ d ∈ t.tokens, Ordinary d.1) : t.names.Flat := by
  intro n hn
  have hpublished : ∃ family, n ∈ t.tokenNames family := by
    rcases List.mem_append.mp hn with hn | hn
    exacts [⟨"--color-", hn⟩, ⟨"--radius-", hn⟩]
  obtain ⟨family, hn⟩ := hpublished
  obtain ⟨d, hd, hafter⟩ := List.mem_filterMap.mp (Text.mem_ordered.mp hn)
  exact ((h d hd).after? hafter).flat

theorem flat_standardNames : Theme.standard.names.Flat := by
  have htokens : ∀ d ∈ Theme.standardTokens, (bytes d.1).all isOrdinaryByte = true := by decide
  exact flat_names fun d hd => ordinary_of_bytes (htokens d hd)

theorem of_ofTheme {t : Theme} {sheets : Sheets} (h : ofTheme t sheets = .ok c) :
    c.names = t.names ∧ c.darkVariant = t.darkVariant := by
  rw [ofTheme] at h
  cases hpreamble : t.preamble sheets with
  | error e => simp [hpreamble, Except.map] at h
  | ok preamble =>
    obtain rfl : (⟨preamble, t.names, t.darkVariant⟩ : Compiler) = c := by
      simpa [hpreamble, Except.map] using h
    exact ⟨rfl, rfl⟩

/-- The sheets have no say in the rules. -/
theorem rules_of_ofTheme {t : Theme} {sheets : Sheets} (h : ofTheme t sheets = .ok c) :
    c.resolve? = resolve? ⟨"", t.names, t.darkVariant⟩ ∧
      c.rules = rules ⟨"", t.names, t.darkVariant⟩ := by
  obtain ⟨preamble, names, darkVariant⟩ := c
  obtain ⟨rfl, rfl⟩ : names = t.names ∧ darkVariant = t.darkVariant := of_ofTheme h
  exact ⟨rfl, rfl⟩

/-- The sheets of the playground's theme are there. -/
theorem exists_standard : ∃ c, ofTheme Theme.standard Sheets.builtin = .ok c := by
  have hloaded : (ofTheme Theme.standard Sheets.builtin).isOk = true := by decide +kernel
  cases hc : ofTheme Theme.standard Sheets.builtin with
  | error e => simp [hc, Except.isOk, Except.toBool] at hloaded
  | ok c => exact ⟨c, rfl⟩

theorem sound_of_mem_rules (hnames : c.names.Flat) (hdark : Frame c.darkVariant)
    (htidy : ∀ s ∈ candidates, Tidy s) (h : rule ∈ c.rules candidates) : rule.Sound := by
  obtain ⟨k, -, hrule⟩ := List.mem_flatMap.mp h
  obtain ⟨candidate, hcandidate, hresolve⟩ := List.mem_filterMap.mp (List.mem_filter.mp hrule).1
  exact sound_of_resolve? hnames hdark (htidy candidate (Text.mem_ordered.mp hcandidate)) hresolve

/-! ## The layer of the rules -/

/-- Directly inside of the layer of the rules. -/
def inLayer : Place := { Place.start with opened := ['\x7d'], blocks := 1 }

theorem complete_rules {rules : List Rule} (h : ∀ r ∈ rules, r.Sound) :
    Complete (String.join (rules.map Rule.text)) := by
  refine Complete.join fun t ht => ?_
  obtain ⟨r, hr, rfl⟩ := List.mem_map.mp ht
  exact .of_closed (h r hr).closed_text

/-- Behind any number of rules the reader is directly inside of the layer. -/
theorem read?_rules {rules : List Rule} (h : ∀ r ∈ rules, r.Sound) :
    Place.start.read? ("@layer utilities \x7b\n" ++ String.join (rules.map Rule.text)) =
      some inLayer := by
  have hfront : Place.start.read? "@layer utilities \x7b\n" = some inLayer := by decide
  rw [Place.read?_append_of_eq hfront,
    (complete_rules h).read?_eq (by decide) (by decide)]

theorem closed_layer {rules : List Rule} (h : ∀ r ∈ rules, r.Sound) :
    Closed 1 (layerText "utilities" (String.join (rules.map Rule.text))) := by
  have hlayer : Encloses 1 ("@layer " ++ "utilities" ++ " \x7b\n") "\x7d\n" := by decide
  exact (complete_rules h).enclosed hlayer

/-- **Tidy candidates keep their rules apart.** With the theme of the playground, the rule of a tidy
candidate is one block with all its brackets closed. In the stylesheet of tidy candidates the layer
of the rules is one as well, and each rule starts and ends directly inside of it, whatever rules are
in front. -/
theorem rules_stay_apart {sheets : Sheets} (hc : ofTheme Theme.standard sheets = .ok c) :
    (∀ candidate rule, c.resolve? candidate = some rule → Tidy candidate → Closed 1 rule.text) ∧
    ∀ candidates, (∀ s ∈ candidates, Tidy s) →
      (∃ layer, c.build candidates = c.preamble ++ layer ∧
        (c.rules candidates = [] ∧ layer = "" ∨
          layer = layerText "utilities" (String.join ((c.rules candidates).map Rule.text)) ∧
            Closed 1 layer)) ∧
      ∀ front rule behind, c.rules candidates = front ++ rule :: behind →
        Place.start.read? ("@layer utilities \x7b\n" ++ String.join (front.map Rule.text)) =
            some inLayer ∧
          inLayer.read? rule.text = some inLayer := by
  obtain ⟨hnames, hdark⟩ := of_ofTheme hc
  have hflat : c.names.Flat := hnames ▸ flat_standardNames
  have hframe : Frame c.darkVariant := by
    rw [hdark]
    decide
  refine ⟨fun candidate rule h htidy => (sound_of_resolve? hflat hframe htidy h).closed_text, ?_⟩
  intro candidates htidy
  have hsound : ∀ r ∈ c.rules candidates, r.Sound := fun r =>
    sound_of_mem_rules hflat hframe htidy
  constructor
  · rw [build]
    cases hrules : c.rules candidates with
    | nil => exact ⟨"", rfl, .inl ⟨rfl, rfl⟩⟩
    | cons rule rest => exact ⟨_, rfl, .inr ⟨rfl, closed_layer (hrules ▸ hsound)⟩⟩
  · intro front rule behind hrules
    rw [hrules] at hsound
    have hrule : Complete rule.text := .of_closed (hsound rule (by simp)).closed_text
    exact ⟨read?_rules fun r hr => hsound r (by simp [hr]),
      hrule.read?_eq (by decide) (by decide)⟩

/-- Brackets between quotes count for nothing, and those of a value may be nested. -/
theorem rules_stay_apart_of_quoted_brackets :
    ∃ c rule layer, ofTheme Theme.standard Sheets.builtin = .ok c ∧
      c.resolve? "md:data-[x=\")(\"]:-m-[max(1px,(2px))]!" = some rule ∧ Closed 1 rule.text ∧
      c.build ["md:data-[x=\")(\"]:-m-[max(1px,(2px))]!"] = c.preamble ++ layer ∧
      Closed 1 layer := by
  obtain ⟨c, hc⟩ := exists_standard
  obtain ⟨hresolve, hrules⟩ := rules_of_ofTheme hc
  have htidy : Tidy "md:data-[x=\")(\"]:-m-[max(1px,(2px))]!" := by decide +kernel
  have hresolved : (c.resolve? "md:data-[x=\")(\"]:-m-[max(1px,(2px))]!").isSome = true := by
    rw [hresolve]
    decide +kernel
  have hsome : c.rules ["md:data-[x=\")(\"]:-m-[max(1px,(2px))]!"] ≠ [] := by
    rw [hrules]
    decide +kernel
  obtain ⟨rule, hrule⟩ := Option.isSome_iff_exists.mp hresolved
  obtain ⟨hone, hall⟩ := rules_stay_apart hc
  obtain ⟨⟨layer, hbuild, hlayer⟩, -⟩ := hall _ (List.forall_mem_singleton.mpr htidy)
  exact ⟨c, rule, layer, hc, hrule, hone _ _ hrule htidy, hbuild,
    (hlayer.resolve_left fun h => hsome h.1).2⟩

/-- Brackets that cross get into the stylesheet, since they are only counted. -/
theorem rule_of_crossing_brackets :
    ¬ ∀ sheets c, ofTheme Theme.standard sheets = .ok c → ∀ candidate rule,
      (∀ d ∈ candidate.toList, Text.isBlank d = false) → c.resolve? candidate = some rule →
        Closed 1 rule.text := by
  intro h
  obtain ⟨c, hc⟩ := exists_standard
  have hrule : c.resolve? "p-[)(]" = some ⟨".p-\\[\\)\\(\\]", [("padding", ")(")], [], 0⟩ := by
    rw [(rules_of_ofTheme hc).1]
    decide +kernel
  have hblank : "p-[)(]".toList.any Text.isBlank = false := by decide
  have hclosed := h _ c hc _ _ (fun d hd => by simpa using List.any_eq_false.mp hblank d hd) hrule
  exact absurd hclosed (by decide)

end Compiler
end LivePreview.Style
