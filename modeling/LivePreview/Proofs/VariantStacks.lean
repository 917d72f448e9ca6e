import LivePreview.Proofs.Members
import LivePreview.Proofs.WrittenValues
import LivePreview.Style.Variant
/-!
# Stacks of variants

Each name of a stack stands for one variant (`Variant.Reads`), and each variant does one thing: it
rewrites the selector without looking at the conditions on the screen, or it adds such a condition
without looking at the selector, or it asks for a part of the element, which waits for the end of
the stack. So a stack may be cut in two, the parts of the element may be taken out of it, and the
conditions on the screen may be moved within it (`Scope.stacks_compose`).

What carries the proof is that variants are added under the conditions that are there already
(`Scope.under`): those neither change nor are looked at (`Scope.foldl_add_under`).
-/
namespace LivePreview.Style

theorem lookup?_eq_none {table : List (String × String)} {key : String} :
    lookup? table key = none ↔ key ∉ table.map (·.1) := by
  simp only [lookup?, Option.map_eq_none_iff, List.find?_eq_none, decide_eq_true_eq, List.mem_map,
    not_exists, not_and]

namespace Variant

/-! ## What a name stands for -/

/-- The names of the parts of the element. -/
def partNames : List String := parts.map (·.1)

/-- The names of the widths of the screen. -/
def widthNames : List String := widths.map (·.1)

/-- What a name may stand for. -/
inductive Reads (name : String) : Variant → Prop where
  | state {s : String} (h : state? name = some s) : Reads name (.state s)
  | part {s : String} (h : lookup? parts name = some s) : Reads name (.part s)
  | group {rest s : String} (hname : name = "group-" ++ rest) (h : state? rest = some s) :
      Reads name (.group s)
  | peer {rest s : String} (hname : name = "peer-" ++ rest) (h : state? rest = some s) :
      Reads name (.peer s)
  | dark (h : name = "dark") : Reads name .dark
  | width {rank : Nat} {least : String} (h : (name, rank, least) ∈ widths) :
      Reads name (.width rank least)
  | template {t : String} (h : bracketed? name = some t) (helement : '&' ∈ t.toList) :
      Reads name (.template t)

variable {name : String} {v : Variant}

theorem Reads.of_width? (h : width? name = some v) : Reads name v := by
  obtain ⟨⟨key, rank, least⟩, hfind, rfl⟩ := Option.map_eq_some_iff.mp h
  obtain rfl : key = name := by simpa using List.find?_some hfind
  exact .width (List.mem_of_find?_eq_some hfind)

theorem Reads.of_template? (h : template? name = some v) : Reads name v := by
  obtain ⟨t, ht, h⟩ := Option.bind_eq_some_iff.mp h
  split at h
  · rename_i helement
    obtain rfl := Option.some.inj h
    have hpiece : ['&'] <:+: t.toList := Text.occurs_eq_true.mp helement
    exact .template ht (hpiece.subset (List.mem_singleton_self '&'))
  · cases h

/-- **Each name stands for one of these.** -/
theorem Reads.of_parse? (h : parse? name = some v) : Reads name v := by
  rw [parse?] at h
  split at h
  · rename_i s hs
    obtain rfl := Option.some.inj h
    exact .state hs
  split at h
  · rename_i s hs
    obtain rfl := Option.some.inj h
    exact .part hs
  split at h
  · rename_i rest hrest
    obtain ⟨s, hs, rfl⟩ := Option.map_eq_some_iff.mp h
    exact .group (Text.after?_eq_some.mp hrest) hs
  split at h
  · rename_i rest hrest
    obtain ⟨s, hs, rfl⟩ := Option.map_eq_some_iff.mp h
    exact .peer (Text.after?_eq_some.mp hrest) hs
  split at h
  · rename_i hdark
    obtain rfl := Option.some.inj h
    exact .dark hdark
  · rcases Option.or_eq_some_iff.mp h with hwidth | ⟨-, htemplate⟩
    · exact .of_width? hwidth
    · exact .of_template? htemplate

theorem parse?_of_mem_widths {rank : Nat} {least : String} (h : (name, rank, least) ∈ widths) :
    parse? name = some (.width rank least) :=
  (by decide : ∀ w ∈ widths, parse? w.1 = some (.width w.2.1 w.2.2)) _ h

theorem isSome_parse?_of_mem_partNames (h : name ∈ partNames) : (parse? name).isSome = true :=
  (by decide : ∀ name ∈ partNames, (parse? name).isSome = true) name h

/-- The parts of the element are those of the table. -/
theorem part?_of_parse? (h : parse? name = some v) : Scope.part? v = lookup? parts name := by
  cases hpart : lookup? parts name with
  | some s =>
    -- no name in the table is read as anything else first
    have hparse : parse? name = some (.part s) :=
      of_find?_map (fun name s => parse? name = some (.part s)) hpart (by decide)
    obtain rfl := Option.some.inj (h.symm.trans hparse)
    rfl
  | none =>
    cases Reads.of_parse? h with
    | part hs => cases hpart.symm.trans hs
    | _ => rfl

theorem part?_eq_none_iff (h : parse? name = some v) :
    Scope.part? v = none ↔ name ∉ partNames := by
  rw [part?_of_parse? h]
  exact lookup?_eq_none

end Variant

namespace Scope

open Variant

variable {darkVariant selector : String} {s outer : Scope} {v w : Variant} {vs ws : List Variant}

/-! ## The conditions that are there already -/

/-- A scope under the conditions of another one. -/
def under (outer s : Scope) : Scope :=
  ⟨s.selector, outer.media ++ s.media, max outer.rank s.rank⟩

theorem under_ofSelector (s : Scope) : s.under (ofSelector s.selector) = s := by
  simp [under, ofSelector]

theorem add_under (v : Variant) :
    (outer.under s).add darkVariant v = outer.under (s.add darkVariant v) := by
  cases v with
  | width rank least => simp [add, under, Nat.max_assoc]
  | _ => simp only [add, under]

/-- **What is there already stays as it is** when variants are added. -/
theorem foldl_add_under (vs : List Variant) :
    vs.foldl (add darkVariant) (outer.under s) = outer.under (vs.foldl (add darkVariant) s) := by
  induction vs generalizing s with
  | nil => rfl
  | cons v vs ih => rw [List.foldl_cons, List.foldl_cons, add_under, ih]

/-! ## Parts of the element -/

theorem add_of_part (h : part? v ≠ none) : s.add darkVariant v = s := by
  cases v with
  | part p => rfl
  | _ => exact absurd rfl h

theorem foldl_add_filter (vs : List Variant) :
    (vs.filter fun v => part? v = none).foldl (add darkVariant) s =
      vs.foldl (add darkVariant) s := by
  induction vs generalizing s with
  | nil => rfl
  | cons v vs ih =>
    by_cases hv : part? v = none
    · rw [List.filter_cons_of_pos (by simpa using hv), List.foldl_cons, List.foldl_cons, ih]
    · rw [List.filter_cons_of_neg (by simpa using hv), List.foldl_cons, add_of_part hv, ih]

theorem filterMap_part?_eq_nil (h : ∀ v ∈ vs, part? v = none) : vs.filterMap part? = [] :=
  List.filterMap_eq_nil_iff.mpr h

theorem lastPart_of_none (h : ∀ v ∈ vs, part? v = none) : lastPart vs = "" := by
  rw [lastPart, filterMap_part?_eq_nil h]
  rfl

theorem lastPart_append_of_none (h : ∀ v ∈ vs, part? v = none) (ws : List Variant) :
    lastPart (vs ++ ws) = lastPart ws := by
  rw [lastPart, List.filterMap_append, filterMap_part?_eq_nil h, List.nil_append, lastPart]

/-- Without its parts of the element a stack lacks the text of the last one. -/
theorem ofStack_filter (vs : List Variant) :
    ofStack darkVariant selector vs =
      let c := ofStack darkVariant selector (vs.filter fun v => part? v = none)
      { c with selector := c.selector ++ lastPart vs } := by
  have hnone : ∀ v ∈ vs.filter (fun v => part? v = none), part? v = none := fun v hv => by
    simpa using (List.mem_filter.mp hv).2
  simp [ofStack, foldl_add_filter, lastPart_of_none hnone]

/-! ## Two stacks -/

theorem ofStack_append (h : ∀ v ∈ vs, part? v = none) (ws : List Variant) :
    ofStack darkVariant selector (vs ++ ws) =
      (ofStack darkVariant selector vs).under
        (ofStack darkVariant (ofStack darkVariant selector vs).selector ws) := by
  have hvs : vs.foldl (add darkVariant) (ofSelector selector) =
      ofStack darkVariant selector vs := by
    simp [ofStack, lastPart_of_none h]
  generalize ofStack darkVariant selector vs = c at hvs ⊢
  -- the second stack is added to what the first one gives
  have hws : ws.foldl (add darkVariant) c =
      c.under (ws.foldl (add darkVariant) (ofSelector c.selector)) := by
    rw [← foldl_add_under, under_ofSelector]
  rw [ofStack, List.foldl_append, hvs, hws, lastPart_append_of_none h]
  rfl

/-! ## Neighbours -/

/-- A condition on the screen is added to a list that no other variant looks at. -/
theorem add_width_comm {rank : Nat} {least : String} (h : ∀ rank least, v ≠ .width rank least) :
    (s.add darkVariant (.width rank least)).add darkVariant v =
      (s.add darkVariant v).add darkVariant (.width rank least) := by
  cases v with
  | width rank least => exact absurd rfl (h rank least)
  | _ => simp only [add]

theorem ofStack_swap {rank : Nat} {least : String} (h : ∀ rank least, v ≠ .width rank least)
    (vs ws : List Variant) :
    ofStack darkVariant selector (vs ++ .width rank least :: v :: ws) =
      ofStack darkVariant selector (vs ++ v :: .width rank least :: ws) := by
  have hlast : lastPart (vs ++ .width rank least :: v :: ws) =
      lastPart (vs ++ v :: .width rank least :: ws) := by
    simp [lastPart, List.filterMap_append, List.filterMap_cons, part?]
  simp only [ofStack, List.foldl_append, List.foldl_cons, add_width_comm h, hlast]

/-! ## Stacks of names -/

section Names

variable {names above below : List String} {c : Scope}

theorem part?_eq_none_of_mapM (h : names.mapM parse? = some vs)
    (hnames : ∀ name ∈ names, name ∉ partNames) : ∀ v ∈ vs, part? v = none := by
  intro v hv
  obtain ⟨name, hname, hparse⟩ := exists_mem_of_mapM h hv
  exact (part?_eq_none_iff hparse).mpr (hnames name hname)

theorem filterMap_part?_of_mapM (h : names.mapM parse? = some vs) :
    vs.filterMap part? = names.filterMap (lookup? parts) := by
  have hall := forall₂_of_mapM h
  clear h
  induction hall with
  | nil => rfl
  | cons hparse _ ih => rw [List.filterMap_cons, List.filterMap_cons, part?_of_parse? hparse, ih]

/-- The names of the parts of the element are taken out with what they stand for. -/
theorem mapM_filter (names : List String) :
    (names.filter (· ∉ partNames)).mapM parse? =
      (names.mapM parse?).map fun vs => vs.filter fun v => part? v = none := by
  induction names with
  | nil => rfl
  | cons name names ih =>
    cases hname : parse? name with
    | none =>
      -- a name that is not known stays in the stack, so that neither stack is read
      have hkeep : name ∉ partNames := fun hmem => by
        simpa [hname] using isSome_parse?_of_mem_partNames hmem
      simp [hkeep, hname]
    | some v =>
      rw [List.mapM_cons, hname]
      by_cases hpart : name ∈ partNames
      · have hv : part? v ≠ none := fun h => (part?_eq_none_iff hname).mp h hpart
        rw [List.filter_cons_of_neg (by simpa using hpart), ih]
        cases names.mapM parse? <;> simp [hv]
      · have hv : part? v = none := (part?_eq_none_iff hname).mpr hpart
        rw [List.filter_cons_of_pos (by simpa using hpart), List.mapM_cons, hname, ih]
        cases names.mapM parse? <;> simp [hv]

theorem ofVariants?_append (h : ∀ name ∈ above, name ∉ partNames) :
    ofVariants? darkVariant selector (above ++ below) = some c ↔
      ∃ c₁ c₂, ofVariants? darkVariant selector above = some c₁ ∧
        ofVariants? darkVariant c₁.selector below = some c₂ ∧ c = c₁.under c₂ := by
  simp only [ofVariants?, Option.map_eq_some_iff, mapM_append_eq_some]
  constructor
  · rintro ⟨-, ⟨vs, ws, hvs, hws, rfl⟩, rfl⟩
    exact ⟨_, _, ⟨vs, hvs, rfl⟩, ⟨ws, hws, rfl⟩, ofStack_append (part?_eq_none_of_mapM hvs h) ws⟩
  · rintro ⟨-, -, ⟨vs, hvs, rfl⟩, ⟨ws, hws, rfl⟩, rfl⟩
    exact ⟨_, ⟨vs, ws, hvs, hws, rfl⟩, ofStack_append (part?_eq_none_of_mapM hvs h) ws⟩

theorem ofVariants?_filter {text : String}
    (h : (names.filterMap (lookup? parts)).getLast? = some text) :
    ofVariants? darkVariant selector names =
      (ofVariants? darkVariant selector (names.filter (· ∉ partNames))).map fun c =>
        { c with selector := c.selector ++ text } := by
  rw [ofVariants?, ofVariants?, mapM_filter]
  cases hvs : names.mapM parse? with
  | none => rfl
  | some vs =>
    have hlast : lastPart vs = text := by rw [lastPart, filterMap_part?_of_mapM hvs, h]; rfl
    simp only [Option.map_some]
    rw [ofStack_filter vs, hlast]

theorem ofVariants?_swap {width other : String} (hwidth : width ∈ widthNames)
    (hother : other ∉ widthNames) (above below : List String) :
    ofVariants? darkVariant selector (above ++ width :: other :: below) =
      ofVariants? darkVariant selector (above ++ other :: width :: below) := by
  obtain ⟨⟨_, rank, least⟩, hmem, rfl⟩ := List.mem_map.mp hwidth
  have hparse := parse?_of_mem_widths hmem
  cases hv : parse? other with
  | none => simp [ofVariants?, List.mapM_append, hparse, hv]
  | some v =>
    have hne : ∀ rank least, v ≠ .width rank least := by
      rintro rank least rfl
      cases Reads.of_parse? hv with
      | width h => exact hother (List.mem_map.mpr ⟨_, h, rfl⟩)
    cases habove : above.mapM parse? <;> cases hbelow : below.mapM parse? <;>
      simp [ofVariants?, List.mapM_append, hparse, hv, habove, hbelow, ofStack_swap hne]

/-- **Stacks of variants compose.** Behind a stack without parts of the element a further stack is
applied to the selector that the first one gives; a name that is not known in either of them is not
known in both. The conditions on the screen stand behind each other, and the higher rank counts. A
stack with parts of the element is the stack without them, with the text of the last one at the end
of its selector. A width of the screen may change places with a neighbour that is not one. -/
theorem stacks_compose (darkVariant selector : String) :
    (∀ above below c, (∀ name ∈ above, name ∉ partNames) →
      (ofVariants? darkVariant selector (above ++ below) = some c ↔
        ∃ c₁ c₂, ofVariants? darkVariant selector above = some c₁ ∧
          ofVariants? darkVariant c₁.selector below = some c₂ ∧
          c = ⟨c₂.selector, c₁.media ++ c₂.media, max c₁.rank c₂.rank⟩)) ∧
    (∀ names text, (names.filterMap (lookup? parts)).getLast? = some text →
      ofVariants? darkVariant selector names =
        (ofVariants? darkVariant selector (names.filter (· ∉ partNames))).map fun c =>
          { c with selector := c.selector ++ text }) ∧
    ∀ above width other below, width ∈ widthNames → other ∉ widthNames →
      ofVariants? darkVariant selector (above ++ width :: other :: below) =
        ofVariants? darkVariant selector (above ++ other :: width :: below) :=
  ⟨fun _ _ _ h => ofVariants?_append h, fun _ _ h => ofVariants?_filter h,
    fun above _ _ below hwidth hother => ofVariants?_swap hwidth hother above below⟩

/-- A stack with two parts of the element, behind one without. -/
theorem stacks_compose_with_two_parts :
    (∀ name ∈ ["md", "group-hover"], name ∉ partNames) ∧
      (["before", "sm", "after", "dark"].filterMap (lookup? parts)).getLast? = some "::after" ∧
      "sm" ∈ widthNames ∧ "after" ∉ widthNames ∧
      ofVariants? "&:is(.dark *)" ".x" ["md", "group-hover", "before", "after", "sm", "dark"] =
        some ⟨".group:hover .x:is(.dark *)::after",
          ["(min-width: 48rem)", "(min-width: 40rem)"], 2⟩ := by
  have habove : ∀ name ∈ ["md", "group-hover"], name ∉ partNames := by decide
  have hlast : (["before", "sm", "after", "dark"].filterMap (lookup? parts)).getLast? =
      some "::after" := by decide
  have hwidth : "sm" ∈ widthNames := by decide
  have hother : "after" ∉ widthNames := by decide
  refine ⟨habove, hlast, hwidth, hother, ?_⟩
  obtain ⟨hcompose, -, hswap⟩ := stacks_compose "&:is(.dark *)" ".x"
  -- the width changes places with `after`, and the stack is cut behind `group-hover`
  refine (hswap ["md", "group-hover", "before"] "sm" "after" ["dark"] hwidth hother).symm.trans ?_
  refine (hcompose ["md", "group-hover"] ["before", "sm", "after", "dark"] _ habove).mpr
    ⟨⟨".group:hover .x", ["(min-width: 48rem)"], 2⟩,
      ⟨".group:hover .x:is(.dark *)::after", ["(min-width: 40rem)"], 1⟩, by decide, ?_, rfl⟩
  exact ((stacks_compose "&:is(.dark *)" ".group:hover .x").2.1 _ _ hlast).trans (by decide)

end Names

end Scope
end LivePreview.Style
