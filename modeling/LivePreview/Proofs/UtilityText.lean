import LivePreview.Proofs.ClassFronts
/-!
# The declarations of classes

Whatever class is read, its properties are words, and its values are closed as soon as the value
that the class writes out is (`sound_of_utility?`). Each family takes prefixes without brackets off
the class and reads a value from what is left, so that the facts about values are all that is
needed.
-/
namespace LivePreview.Style

open Value

/-- Whether the declarations of a class are closed, and what selects its children has no blocks. -/
structure Utility.Sound (u : Utility) : Prop where
  declarations : ∀ d ∈ u.declarations, Complete d.1 ∧ Complete d.2
  child : ∀ t ∈ u.child, Flat t

namespace Utility

/-- Whether a family reads nothing but sound utilities from clean classes. -/
def KeepsClosed (family : String → Option Utility) : Prop :=
  ∀ {c u}, Clean c → family c = some u → u.Sound

/-! ## Making utilities -/

section
variable {c p v word rest : String} {u : Utility} {properties : List String}
  {declarations : List Declaration}

theorem sound_ofList (h : ∀ d ∈ declarations, Complete d.1 ∧ Complete d.2) :
    (ofList declarations).Sound :=
  ⟨h, by simp [ofList]⟩

theorem sound_of_flat (h : ∀ d ∈ declarations, Flat d.1 ∧ Flat d.2) :
    (ofList declarations).Sound :=
  sound_ofList fun d hd => (h d hd).imp .of_closed .of_closed

theorem sound_one (hp : Flat p) (hv : Complete v) : (one p v).Sound :=
  sound_ofList (by simpa using ⟨.of_closed hp, hv⟩)

theorem sound_cons (hp : Flat p) (hv : Complete v) (h : (ofList declarations).Sound) :
    (ofList ((p, v) :: declarations)).Sound :=
  sound_ofList (List.forall_mem_cons.mpr ⟨⟨.of_closed hp, hv⟩, h.declarations⟩)

theorem sound_same (hp : ∀ p ∈ properties, Flat p) (hv : Complete v) :
    (same properties v).Sound := by
  refine sound_ofList fun d hd => ?_
  obtain ⟨p, hp', rfl⟩ := List.mem_map.mp hd
  exact ⟨.of_closed (hp p hp'), hv⟩

theorem sound_of_map_one {value? : Option String} (hp : Flat p)
    (hv : ∀ v, value? = some v → Complete v) (h : value?.map (one p) = some u) : u.Sound := by
  obtain ⟨v, hvalue, rfl⟩ := Option.map_eq_some_iff.mp h
  exact sound_one hp (hv v hvalue)

theorem sound_of_inTable? {table : List (String × List Declaration)}
    (htable : ∀ e ∈ table, ∀ d ∈ e.2, Flat d.1 ∧ Flat d.2) (h : inTable? table c = some u) :
    u.Sound := by
  obtain ⟨e, he, rfl⟩ := Option.map_eq_some_iff.mp h
  exact sound_of_flat (htable e (List.mem_of_find?_eq_some he))

theorem complete_of_contains {keywords : List String} (hkeywords : ∀ s ∈ keywords, Flat s)
    (h : keywords.contains v = true) : Complete v :=
  .of_closed (hkeywords v (List.contains_iff_mem.mp h))

/-! ## Taking prefixes off -/

theorem clean_of_cutPrefix? {α : Type} {table : List (String × α)} {a : α} (P : α → Prop)
    (hc : Clean c) (h : cutPrefix? table c = some (a, rest))
    (htable : ∀ e ∈ table, Unopened e.1 ∧ P e.2) : P a ∧ Clean rest := by
  obtain ⟨front, ⟨hfront, hP⟩, rfl⟩ :=
    exists_front_of_cutPrefix? (fun front a => Unopened front ∧ P a) h htable
  exact ⟨hP, hc.behind hfront⟩

theorem clean_of_sign {negative : Bool} (hc : Clean c) (h : sign c = (negative, rest)) :
    Clean rest := by
  rw [eq_of_sign h] at hc
  exact hc.behind (by cases negative <;> decide)

theorem clean_of_tail? (hc : Clean c) (hword : Unopened word) (h : tail? word c = some rest) :
    Clean rest := by
  rcases eq_of_tail? h with ⟨-, rfl⟩ | rfl
  · exact clean_empty
  · rw [String.append_assoc] at hc
    exact (hc.behind hword).behind (by decide)

theorem clean_of_splitSide {α : Type} {side? : String → Option α} {side : Option α}
    (P : α → Prop) (hc : Clean rest) (h : splitSide side? rest = (side, v))
    (hside : ∀ s a, side? s = some a → Unopened s ∧ P a) : (∀ a ∈ side, P a) ∧ Clean v := by
  rcases eq_of_splitSide h with ⟨rfl, rfl⟩ | ⟨s, a, ha, rfl, hrest⟩
  · exact ⟨by simp, hc⟩
  · obtain ⟨hs, hP⟩ := hside s a ha
    refine ⟨by simpa using hP, ?_⟩
    rcases hrest with ⟨-, rfl⟩ | rfl
    · exact clean_empty
    · rw [String.append_assoc] at hc
      exact (hc.behind hs).behind (by decide)

end

/-! ## Layout -/

theorem keepsClosed_display? : KeepsClosed display? := fun _ h =>
  sound_of_inTable? (by decide) h

theorem keepsClosed_inset? : KeepsClosed inset? := by
  intro c u hc h
  rw [inset?] at h
  split at h
  rename_i negative rest hsign
  obtain ⟨⟨edges, value⟩, hcut, h⟩ := Option.bind_eq_some_iff.mp h
  obtain ⟨size, hsize, h⟩ := Option.bind_eq_some_iff.mp h
  obtain rfl := Option.some.inj h
  obtain ⟨hedges, hvalue⟩ := clean_of_cutPrefix? (fun edges => ∀ p ∈ edges, Flat p)
    (clean_of_sign hc hsign) hcut (by decide)
  exact sound_same hedges (complete_negate (complete_of_size? hvalue hsize))

theorem keepsClosed_zIndex? : KeepsClosed zIndex? := by
  intro c u hc h
  obtain ⟨value, hafter, h⟩ := Option.bind_eq_some_iff.mp h
  have hvalue : Clean value := hc.after? hafter (by decide)
  split at h
  · obtain rfl := Option.some.inj h
    exact sound_one (by decide) ⟨0, by decide⟩
  split at h
  · rename_i v hv
    obtain rfl := Option.some.inj h
    exact sound_one (by decide) (hvalue.arbitrary? hv)
  · obtain ⟨n, hn, h⟩ := Option.bind_eq_some_iff.mp h
    obtain rfl := Option.some.inj h
    exact sound_one (by decide) (.of_closed (flat_of_word? hn))

theorem keepsClosed_overflow? : KeepsClosed overflow? := by
  intro c u hc h
  obtain ⟨⟨property, value⟩, hcut, h⟩ := Option.bind_eq_some_iff.mp h
  obtain ⟨hproperty, -⟩ := clean_of_cutPrefix? Flat hc hcut (by decide)
  dsimp only at h
  split at h
  · rename_i hkeyword
    obtain rfl := Option.some.inj h
    exact sound_one hproperty (complete_of_contains (by decide) hkeyword)
  · cases h

theorem keepsClosed_appearance? : KeepsClosed appearance? := fun _ h =>
  sound_of_inTable? (by decide) h

theorem complete_of_order? {v value : String} (h : order? value = some v) : Complete v := by
  rw [order?] at h
  split at h
  · rename_i w hw
    obtain rfl := Option.some.inj h
    exact complete_of_lookup? (by decide) hw
  · obtain ⟨n, hn, rfl⟩ := Option.map_eq_some_iff.mp h
    exact .of_closed (flat_of_word? hn)

theorem keepsClosed_flex? : KeepsClosed flex? := by
  intro c u hc h
  rw [flex?] at h
  split at h
  · rename_i w hw
    obtain rfl := Option.some.inj h
    exact sound_of_inTable? (by decide) hw
  split at h
  · rename_i value hafter
    have hvalue : Clean value := hc.after? hafter (by decide)
    exact sound_of_map_one (by decide) (fun v => complete_of_size? hvalue) h
  split at h
  · exact sound_of_map_one (by decide) (fun v => complete_of_order?) h
  · cases h

theorem complete_of_tracks? {v value : String} (hc : Clean value) (h : tracks? value = some v) :
    Complete v := by
  rw [tracks?] at h
  split at h
  · obtain rfl := Option.some.inj h
    exact ⟨0, by decide⟩
  split at h
  · rename_i w hw
    obtain rfl := Option.some.inj h
    exact hc.arbitrary? hw
  · obtain ⟨n, -, rfl⟩ := Option.map_eq_some_iff.mp h
    have hrepeat : Encloses 0 "repeat(" ", minmax(0, 1fr))" := by decide
    exact .of_closed ((Complete.of_closed (flat_ofNat n)).enclosed hrepeat)

theorem complete_of_span? {v value : String} (h : span? value = some v) : Complete v := by
  rw [span?] at h
  split at h
  · obtain rfl := Option.some.inj h
    exact ⟨0, by decide⟩
  · obtain ⟨n, -, rfl⟩ := Option.map_eq_some_iff.mp h
    have hfront : Flat ("span " ++ Text.ofNat n) :=
      Flat.append (by decide) (flat_ofNat n)
    exact .of_closed ((hfront.append (by decide)).append (flat_ofNat n))

theorem keepsClosed_grid? : KeepsClosed grid? := by
  intro c u hc h
  obtain ⟨⟨⟨property, isSpan⟩, value⟩, hcut, h⟩ := Option.bind_eq_some_iff.mp h
  obtain ⟨hproperty, hvalue⟩ := clean_of_cutPrefix? (fun a => Flat a.1) hc hcut (by decide)
  refine sound_of_map_one hproperty (fun v hv => ?_) h
  split at hv
  · exact complete_of_span? hv
  · exact complete_of_tracks? hvalue hv

theorem complete_of_alignment? {property v value : String}
    (h : alignment? property value = some v) : Complete v := by
  refine complete_of_lookup? ?_ h
  cases ["justify-content", "align-items", "align-content"].contains property <;> decide

theorem keepsClosed_align? : KeepsClosed align? := by
  intro c u hc h
  obtain ⟨⟨property, value⟩, hcut, h⟩ := Option.bind_eq_some_iff.mp h
  obtain ⟨hproperty, -⟩ := clean_of_cutPrefix? Flat hc hcut (by decide)
  exact sound_of_map_one hproperty (fun v => complete_of_alignment?) h

/-! ## Spacing and sizes -/

theorem keepsClosed_gap? : KeepsClosed gap? := by
  intro c u hc h
  obtain ⟨⟨property, value⟩, hcut, h⟩ := Option.bind_eq_some_iff.mp h
  obtain ⟨hproperty, hvalue⟩ := clean_of_cutPrefix? Flat hc hcut (by decide)
  exact sound_of_map_one hproperty (fun v => complete_of_spacing? hvalue) h

theorem keepsClosed_between? : KeepsClosed between? := by
  intro c u hc h
  obtain ⟨⟨property, value⟩, hcut, h⟩ := Option.bind_eq_some_iff.mp h
  obtain ⟨v, hv, h⟩ := Option.bind_eq_some_iff.mp h
  obtain rfl := Option.some.inj h
  obtain ⟨hproperty, hvalue⟩ := clean_of_cutPrefix? Flat hc hcut (by decide)
  constructor
  · simpa using ⟨.of_closed hproperty, complete_of_spacing? hvalue hv⟩
  · simpa using (by decide : Flat allButLast)

theorem keepsClosed_padding? : KeepsClosed padding? := by
  intro c u hc h
  rw [padding?] at h
  split at h
  rename_i negative rest hsign
  obtain ⟨⟨key, value⟩, hcut, h⟩ := Option.bind_eq_some_iff.mp h
  have hrest : Clean rest := clean_of_sign hc hsign
  -- the value is clean once the key is known to be one of a table
  have hvalue : Unopened key → Clean value := hrest.of_cut? hcut
  dsimp only at h
  split at h
  · rename_i property hlookup
    obtain ⟨hkey, hproperty⟩ : Unopened key ∧ Flat property :=
      of_find?_map (fun k p => Unopened k ∧ Flat p) hlookup (by decide)
    split at h
    · split at h
      · cases h
      · obtain rfl := Option.some.inj h
        exact sound_one hproperty ⟨0, by decide⟩
    · obtain ⟨v, hv, h⟩ := Option.bind_eq_some_iff.mp h
      obtain rfl := Option.some.inj h
      exact sound_one hproperty (complete_negate (complete_of_spacing? (hvalue hkey) hv))
  · obtain ⟨property, hlookup, h⟩ := Option.bind_eq_some_iff.mp h
    obtain ⟨hkey, hproperty⟩ : Unopened key ∧ Flat property :=
      of_find?_map (fun k p => Unopened k ∧ Flat p) hlookup (by decide)
    split at h
    · cases h
    · exact sound_of_map_one hproperty (fun v => complete_of_spacing? (hvalue hkey)) h

theorem keepsClosed_sizing? : KeepsClosed sizing? := by
  intro c u hc h
  rw [sizing?] at h
  split at h
  · rename_i value hafter
    have hvalue : Clean value := hc.after? hafter (by decide)
    obtain ⟨v, hv, rfl⟩ := Option.map_eq_some_iff.mp h
    exact sound_same (by decide) (complete_of_size? hvalue hv)
  split at h
  · rename_i value hafter
    have hvalue : Clean value := hc.after? hafter (by decide)
    split at h
    · rename_i w hw
      obtain rfl := Option.some.inj h
      exact sound_one (by decide) (complete_of_lookup? (by decide) hw)
    · exact sound_of_map_one (by decide) (fun v => complete_of_size? hvalue) h
  · obtain ⟨⟨⟨property, axis⟩, value⟩, hcut, h⟩ := Option.bind_eq_some_iff.mp h
    obtain ⟨hproperty, hvalue⟩ :=
      clean_of_cutPrefix? (fun a => Flat a.1) hc hcut (by decide)
    exact sound_of_map_one hproperty (fun v => complete_of_size? hvalue) h

/-! ## Text -/

theorem keepsClosed_lineClamp? : KeepsClosed lineClamp? := by
  intro value u hvalue h
  rw [lineClamp?] at h
  split at h
  · obtain rfl := Option.some.inj h
    exact sound_of_flat (by decide)
  · obtain ⟨n, hn, rfl⟩ := Option.map_eq_some_iff.mp h
    have hlines : Complete n := by
      split at hn
      · rename_i v hv
        obtain rfl := Option.some.inj hn
        exact hvalue.arbitrary? hv
      · obtain ⟨k, -, rfl⟩ := Option.map_eq_some_iff.mp hn
        exact .of_closed (flat_ofNat k)
    exact sound_cons (by decide) ⟨0, by decide⟩ (sound_cons (by decide) ⟨0, by decide⟩
      (sound_cons (by decide) ⟨0, by decide⟩ (sound_one (by decide) hlines)))

theorem keepsClosed_fontSize? : KeepsClosed fontSize? := by
  intro value u hvalue h
  rw [fontSize?] at h
  split at h
  · rename_i w hw
    obtain rfl := Option.some.inj h
    exact sound_of_inTable? (by decide) hw
  split at h
  · exact sound_of_map_one (by decide) (fun v => hvalue.arbitrary?) h
  · cases h

theorem keepsClosed_typography? : KeepsClosed typography? := by
  intro c u hc h
  rw [typography?] at h
  split at h
  · rename_i w hw
    obtain rfl := Option.some.inj h
    exact sound_of_inTable? (by decide) hw
  · -- each prefix comes with a reader of its own, which is a family as well
    obtain ⟨⟨read, value⟩, hcut, h⟩ := Option.bind_eq_some_iff.mp h
    have hweight : KeepsClosed fun v => (lookup? fontWeights v).map (one "font-weight") :=
      fun _ h => sound_of_map_one (by decide) (fun v => complete_of_lookup? (by decide)) h
    have htracking : KeepsClosed fun v => (lookup? letterSpacings v).map (one "letter-spacing") :=
      fun _ h => sound_of_map_one (by decide) (fun v => complete_of_lookup? (by decide)) h
    obtain ⟨hread, hvalue⟩ := clean_of_cutPrefix? KeepsClosed hc hcut (by
      simp only [List.forall_mem_cons]
      refine ⟨⟨by decide, keepsClosed_lineClamp?⟩, ⟨by decide, keepsClosed_fontSize?⟩,
        ⟨by decide, hweight⟩, ⟨by decide, ?_⟩, ⟨by decide, htracking⟩, by simp⟩
      intro v u hv h
      refine sound_of_map_one (by decide) (fun w hw => ?_) h
      split at hw
      · rename_i height hheight
        obtain rfl := Option.some.inj hw
        exact complete_of_lookup? (by decide) hheight
      · exact complete_of_spacing? hv hw)
    exact hread hvalue h

/-! ## Surfaces -/

variable {names : Names}

theorem keepsClosed_color? (hnames : names.Flat) : KeepsClosed (color? names) := by
  intro c u hc h
  obtain ⟨⟨property, value⟩, hcut, h⟩ := Option.bind_eq_some_iff.mp h
  obtain ⟨hproperty, hvalue⟩ := clean_of_cutPrefix? Flat hc hcut (by decide)
  exact sound_of_map_one hproperty (fun v => complete_of_color? hnames hvalue) h

theorem flat_pixels (n : Nat) : Flat (pixels n) := (flat_ofNat n).append (by decide)

theorem complete_of_lineWidth? {v value : String} (hvalue : Clean value)
    (h : lineWidth? value = some v) : Complete v := by
  rw [lineWidth?] at h
  split at h
  · obtain rfl := Option.some.inj h
    exact ⟨0, by decide⟩
  split at h
  · cases h
  · exact hvalue.arbitrary? h
  · obtain ⟨n, -, rfl⟩ := Option.map_eq_some_iff.mp h
    exact .of_closed (flat_pixels n)

theorem keepsClosed_border? (hnames : names.Flat) : KeepsClosed (border? names) := by
  intro c u hc h
  obtain ⟨rest, htail, h⟩ := Option.bind_eq_some_iff.mp h
  have hrest : Clean rest := clean_of_tail? hc (by decide) htail
  split at h
  · rename_i hkeyword
    obtain rfl := Option.some.inj h
    exact sound_one (by decide) (complete_of_contains (by decide) hkeyword)
  split at h
  rename_i side value hsplit
  obtain ⟨hside, hvalue⟩ := clean_of_splitSide Flat hrest hsplit fun s a ha =>
    of_find?_map (fun k p => Unopened k ∧ Flat p) ha (by decide)
  split at h
  · rename_i width hwidth
    obtain rfl := Option.some.inj h
    have hproperty : Flat (side.getD "border-width") := by
      cases side with
      | some p => exact hside p rfl
      | none => decide
    exact sound_cons (by decide) ⟨0, by decide⟩
      (sound_one hproperty (complete_of_lineWidth? hvalue hwidth))
  · split at h
    · cases h
    · exact sound_of_map_one (by decide) (fun v => complete_of_color? hnames hvalue) h

theorem complete_of_radiusValue? {v value : String} (hnames : names.Flat) (hvalue : Clean value)
    (h : radiusValue? names value = some v) : Complete v := by
  rw [radiusValue?] at h
  split at h
  · rename_i w hw
    obtain rfl := Option.some.inj h
    exact hvalue.arbitrary? hw
  split at h
  · rename_i hname
    obtain rfl := Option.some.inj h
    have hflat : Flat value :=
      hnames value (List.mem_append_right _ (List.contains_iff_mem.mp hname))
    have hvar : Encloses 0 "var(--radius-" ")" := by decide
    exact .of_closed ((Complete.of_closed hflat).enclosed hvar)
  · exact complete_of_lookup? (by decide) h

theorem keepsClosed_radius? (hnames : names.Flat) : KeepsClosed (radius? names) := by
  intro c u hc h
  obtain ⟨rest, htail, h⟩ := Option.bind_eq_some_iff.mp h
  have hrest : Clean rest := clean_of_tail? hc (by decide) htail
  split at h
  rename_i corners value hsplit
  obtain ⟨hcorners, hvalue⟩ := clean_of_splitSide (fun ps => ∀ p ∈ ps, Flat p) hrest hsplit
    fun s a ha => of_find?_map (fun k ps => Unopened k ∧ ∀ p ∈ ps, Flat p) ha (by decide)
  obtain ⟨radius, hradius, h⟩ := Option.bind_eq_some_iff.mp h
  obtain rfl := Option.some.inj h
  have hproperties : ∀ p ∈ corners.getD ["border-radius"], Flat p := by
    cases corners with
    | some ps => exact hcorners ps rfl
    | none => decide
  exact sound_same hproperties (complete_of_radiusValue? hnames hvalue hradius)

theorem keepsClosed_ring? (hnames : names.Flat) : KeepsClosed (ring? names) := by
  intro c u hc h
  obtain ⟨rest, hafter, h⟩ := Option.bind_eq_some_iff.mp h
  have hrest : Clean rest := hc.after? hafter (by decide)
  dsimp only at h
  split at h
  · rename_i w hw
    obtain rfl := Option.some.inj h
    have hwidth : Complete w := by
      split at hw
      · obtain rfl := Option.some.inj hw
        exact ⟨0, by decide⟩
      · obtain ⟨value, hvalue, hw⟩ := Option.bind_eq_some_iff.mp hw
        split at hw
        · cases hw
        · exact complete_of_lineWidth? (hrest.after? hvalue (by decide)) hw
    have hfront : Complete "0 0 0 " := ⟨0, by decide⟩
    exact sound_one (by decide) ((hfront.append hwidth).append ⟨0, by decide⟩)
  · obtain ⟨value, hvalue, h⟩ := Option.bind_eq_some_iff.mp h
    have hvalue : Clean value := hrest.after? hvalue (by decide)
    exact sound_of_map_one (by decide) (fun v => complete_of_color? hnames hvalue) h

theorem keepsClosed_shadow? : KeepsClosed shadow? := fun _ h =>
  sound_of_map_one (by decide) (fun _ hv => complete_of_lookup? (by decide) hv) h

theorem keepsClosed_opacity? : KeepsClosed opacity? := by
  intro c u hc h
  obtain ⟨value, hafter, h⟩ := Option.bind_eq_some_iff.mp h
  split at h
  · rename_i v hv
    obtain rfl := Option.some.inj h
    exact sound_one (by decide) ((hc.after? hafter (by decide)).arbitrary? hv)
  · obtain ⟨n, -, h⟩ := Option.bind_eq_some_iff.mp h
    split at h
    · cases h
    obtain rfl := Option.some.inj h
    exact sound_one (by decide) (.of_closed ((flat_ofNat n).append (by decide)))

theorem keepsClosed_interaction? : KeepsClosed interaction? := by
  intro c u _ h
  rw [interaction?] at h
  split at h
  · split at h
    · rename_i hkeyword
      obtain rfl := Option.some.inj h
      exact sound_one (by decide) (complete_of_contains (by decide) hkeyword)
    · cases h
  split at h
  · split at h
    · rename_i hkeyword
      obtain rfl := Option.some.inj h
      exact sound_one (by decide) (complete_of_contains (by decide) hkeyword)
    · cases h
  · exact sound_of_inTable? (by decide) h

theorem keepsClosed_outline? (hnames : names.Flat) : KeepsClosed (outline? names) := by
  intro c u hc h
  obtain ⟨rest, hafter, h⟩ := Option.bind_eq_some_iff.mp h
  have hrest : Clean rest := hc.after? hafter (by decide)
  split at h
  · obtain rfl := Option.some.inj h
    exact sound_of_flat (by decide)
  obtain ⟨value, hvalue, h⟩ := Option.bind_eq_some_iff.mp h
  have hvalue : Clean value := hrest.after? hvalue (by decide)
  split at h
  · obtain ⟨n, -, rfl⟩ := Option.map_eq_some_iff.mp h
    exact sound_one (by decide) (.of_closed (flat_pixels n))
  split at h
  · rename_i n _
    obtain rfl := Option.some.inj h
    exact sound_cons (by decide) ⟨0, by decide⟩ (sound_one (by decide) (.of_closed (flat_pixels n)))
  · exact sound_of_map_one (by decide) (fun v => complete_of_color? hnames hvalue) h

theorem keepsClosed_drawing? (hnames : names.Flat) : KeepsClosed (drawing? names) := by
  intro c u hc h
  rw [drawing?] at h
  split at h
  · rename_i value hafter
    have hvalue : Clean value := hc.after? hafter (by decide)
    exact sound_of_map_one (by decide) (fun v => complete_of_color? hnames hvalue) h
  split at h
  · rename_i value hafter
    have hvalue : Clean value := hc.after? hafter (by decide)
    split at h
    · rename_i n _
      obtain rfl := Option.some.inj h
      exact sound_one (by decide) (.of_closed (flat_ofNat n))
    · exact sound_of_map_one (by decide) (fun v => complete_of_color? hnames hvalue) h
  · cases h

/-! ## Motion -/

theorem clean_of_axes {rest value : String} {names : List String} (hrest : Clean rest)
    (h : axes rest = (names, value)) : (∀ a ∈ names, Flat a) ∧ Clean value := by
  obtain ⟨front, hfront, rfl⟩ := exists_of_axes h
  have hfronts : ∀ e ∈ [("x-", ["x"]), ("y-", ["y"]), ("", ["x", "y"])],
      Unopened e.1 ∧ ∀ a ∈ e.2, Flat a := by decide
  exact ⟨(hfronts _ hfront).2, hrest.behind (hfronts _ hfront).1⟩

theorem sound_onAxes {property initial value : String} {names : List String}
    (hproperty : Flat property) (hinitial : Flat initial) (hnames : ∀ a ∈ names, Flat a)
    (hvalue : Complete value) : (onAxes property initial names value).Sound := by
  have hvariable : ∀ {a}, Flat a → Flat ("--tw-" ++ property ++ "-" ++ a) := fun ha =>
    ((Flat.append (by decide) hproperty).append (by decide)).append ha
  have huse : ∀ {a}, Flat a →
      Flat ("var(" ++ ("--tw-" ++ property ++ "-" ++ a) ++ ", " ++ initial ++ ")") := by
    intro a ha
    have hinner : Complete ("--tw-" ++ property ++ "-" ++ a ++ (", " ++ initial)) :=
      .of_closed ((hvariable ha).append (Flat.append (by decide) hinitial))
    have hvar : Encloses 0 "var(" ")" := by decide
    simpa only [String.append_assoc] using hinner.enclosed hvar
  refine sound_ofList fun d hd => ?_
  rcases List.mem_append.mp hd with hd | hd
  · obtain ⟨a, ha, rfl⟩ := List.mem_map.mp hd
    exact ⟨.of_closed (hvariable (hnames a ha)), hvalue⟩
  · obtain rfl := List.mem_singleton.mp hd
    exact ⟨.of_closed hproperty,
      .of_closed (((huse (by decide)).append (by decide)).append (huse (by decide)))⟩

theorem complete_of_numberWith? {unit v value : String} (hunit : Flat unit) (hvalue : Clean value)
    (h : numberWith? unit value = some v) : Complete v := by
  rw [numberWith?] at h
  split at h
  · rename_i w hw
    obtain rfl := Option.some.inj h
    exact hvalue.arbitrary? hw
  · obtain ⟨n, -, rfl⟩ := Option.map_eq_some_iff.mp h
    exact .of_closed ((flat_ofNat n).append hunit)

theorem keepsClosed_transform? : KeepsClosed transform? := by
  intro c u hc h
  rw [transform?] at h
  split at h
  rename_i negative rest hsign
  have hrest : Clean rest := clean_of_sign hc hsign
  split at h
  · rename_i r hafter
    split at h
    rename_i names value haxes
    obtain ⟨hnames, hvalue⟩ := clean_of_axes (hrest.after? hafter (by decide)) haxes
    obtain ⟨distance, hdistance, h⟩ := Option.bind_eq_some_iff.mp h
    obtain rfl := Option.some.inj h
    exact sound_onAxes (by decide) (by decide) hnames
      (complete_negate (complete_of_size? hvalue hdistance))
  split at h
  · rename_i r hafter
    split at h
    rename_i names value haxes
    obtain ⟨hnames, hvalue⟩ := clean_of_axes (hrest.after? hafter (by decide)) haxes
    obtain ⟨factor, hfactor, h⟩ := Option.bind_eq_some_iff.mp h
    obtain rfl := Option.some.inj h
    exact sound_onAxes (by decide) (by decide) hnames
      (complete_negate (complete_of_numberWith? (by decide) hvalue hfactor))
  split at h
  · rename_i value hafter
    obtain ⟨angle, hangle, rfl⟩ := Option.map_eq_some_iff.mp h
    exact sound_one (by decide) (complete_negate
      (complete_of_numberWith? (by decide) (hrest.after? hafter (by decide)) hangle))
  · exact sound_of_inTable? (by decide) h

theorem complete_of_blurRadius? {v value : String} (hvalue : Clean value)
    (h : blurRadius? value = some v) : Complete v := by
  rw [blurRadius?] at h
  split at h
  · rename_i r hr
    obtain rfl := Option.some.inj h
    exact complete_of_lookup? (by decide) hr
  · exact hvalue.arbitrary? h

theorem keepsClosed_filter? : KeepsClosed filter? := by
  intro c u hc h
  obtain ⟨⟨property, rest⟩, hcut, h⟩ := Option.bind_eq_some_iff.mp h
  obtain ⟨hproperty, hrest⟩ := clean_of_cutPrefix? Flat hc hcut (by decide)
  -- without a dash the empty value is read
  have hread : ∃ value, Clean value ∧ ∃ radius, blurRadius? value = some radius ∧
      one property (if radius = "" then "none" else "blur(" ++ radius ++ ")") = u := by
    dsimp only at h
    split at h
    · obtain ⟨value, hvalue, h⟩ := Option.bind_eq_some_iff.mp h
      obtain rfl := Option.some.inj hvalue
      obtain ⟨radius, hradius, h⟩ := Option.bind_eq_some_iff.mp h
      exact ⟨"", clean_empty, radius, hradius, Option.some.inj h⟩
    · obtain ⟨value, hafter, h⟩ := Option.bind_eq_some_iff.mp h
      obtain ⟨radius, hradius, h⟩ := Option.bind_eq_some_iff.mp h
      exact ⟨value, hrest.after? hafter (by decide), radius, hradius, Option.some.inj h⟩
  obtain ⟨value, hvalue, radius, hradius, rfl⟩ := hread
  have hblur : Encloses 0 "blur(" ")" := by decide
  refine sound_one hproperty ?_
  split
  · exact ⟨0, by decide⟩
  · exact .of_closed ((complete_of_blurRadius? hvalue hradius).enclosed hblur)

theorem keepsClosed_transition? : KeepsClosed transition? := by
  intro c u _ h
  rw [transition?] at h
  split at h
  · rename_i properties hlookup
    obtain rfl := Option.some.inj h
    exact sound_cons (by decide) (complete_of_lookup? (by decide +kernel) hlookup)
      (sound_of_flat (by decide))
  split at h
  · obtain rfl := Option.some.inj h
    exact sound_one (by decide) ⟨0, by decide⟩
  split at h
  · obtain ⟨n, -, rfl⟩ := Option.map_eq_some_iff.mp h
    exact sound_same (by decide) (.of_closed ((flat_ofNat n).append (by decide)))
  · obtain ⟨value, -, h⟩ := Option.bind_eq_some_iff.mp h
    exact sound_of_map_one (by decide) (fun v hv => complete_of_lookup? (by decide) hv) h

theorem keepsClosed_animation? : KeepsClosed animation? := fun _ h =>
  sound_of_map_one (by decide) (fun _ hv => complete_of_lookup? (by decide +kernel) hv) h

theorem sound_of_slide? {phase rest : String} {u : Utility} (hphase : Flat phase)
    (hrest : Clean rest) (h : slide? phase rest = some u) : u.Sound := by
  obtain ⟨side, axis, negative, distance, hside, rfl, hparts⟩ := exists_of_slide? h
  obtain ⟨hunopened, haxis⟩ : Unopened side ∧ Flat axis :=
    of_find?_map (fun k a => Unopened k ∧ Flat a.1) hside (by decide)
  have hproperty : Flat ("--tw-" ++ phase ++ "-translate-" ++ axis) :=
    ((Flat.append (by decide) hphase).append (by decide)).append haxis
  refine sound_one hproperty (complete_negate ?_)
  rcases hparts with ⟨-, rfl⟩ | ⟨value, rfl, hsize⟩
  · exact ⟨0, by decide⟩
  · rw [String.append_assoc] at hrest
    exact complete_of_size? ((hrest.behind hunopened).behind (by decide)) hsize

theorem keepsClosed_enterExit? : KeepsClosed enterExit? := by
  intro c u hc h
  rw [enterExit?] at h
  split at h
  · rename_i phase kind amount hcut
    obtain ⟨⟨hphase, hkind⟩, hamount⟩ :=
      clean_of_cutPrefix? (fun a => Flat a.1 ∧ Flat a.2) hc hcut (by decide)
    have hproperty : Flat ("--tw-" ++ phase ++ "-" ++ kind) :=
      ((Flat.append (by decide) hphase).append (by decide)).append hkind
    dsimp only at h
    split at h
    · obtain ⟨value, hvalue, h⟩ := Option.bind_eq_some_iff.mp h
      obtain rfl := Option.some.inj hvalue
      obtain rfl := Option.some.inj h
      refine sound_one hproperty ?_
      split <;> exact ⟨0, by decide⟩
    · obtain ⟨rest, hafter, h⟩ := Option.bind_eq_some_iff.mp h
      obtain ⟨value, hvalue, h⟩ := Option.bind_eq_some_iff.mp h
      obtain rfl := Option.some.inj h
      refine sound_one hproperty
        (complete_of_numberWith? ?_ (hamount.after? hafter (by decide)) hvalue)
      split <;> decide
  · obtain ⟨⟨phase, rest⟩, hcut, h⟩ := Option.bind_eq_some_iff.mp h
    obtain ⟨hphase, hrest⟩ := clean_of_cutPrefix? Flat hc hcut (by decide)
    exact sound_of_slide? hphase hrest h

/-! ## All families -/

/-- **The declarations of a class are closed if the value that it writes out is.** -/
theorem sound_of_utility? {c : String} {u : Utility} (hnames : names.Flat) (hc : Clean c)
    (h : utility? names c = some u) : u.Sound := by
  obtain ⟨family, hmem, hfamily⟩ := List.exists_of_findSome?_eq_some h
  have hall : ∀ family ∈ families names, KeepsClosed family := by
    simp only [families, List.forall_mem_cons]
    exact ⟨keepsClosed_display?, keepsClosed_inset?, keepsClosed_zIndex?, keepsClosed_overflow?,
      keepsClosed_appearance?, keepsClosed_flex?, keepsClosed_grid?, keepsClosed_align?,
      keepsClosed_gap?, keepsClosed_between?, keepsClosed_padding?, keepsClosed_sizing?,
      keepsClosed_typography?, keepsClosed_color? hnames, keepsClosed_border? hnames,
      keepsClosed_radius? hnames, keepsClosed_ring? hnames, keepsClosed_shadow?,
      keepsClosed_opacity?, keepsClosed_interaction?, keepsClosed_outline? hnames,
      keepsClosed_transform?, keepsClosed_filter?, keepsClosed_transition?, keepsClosed_animation?,
      keepsClosed_enterExit?, keepsClosed_drawing? hnames, by simp⟩
  exact hall family hmem hc hfamily

end Utility
end LivePreview.Style
