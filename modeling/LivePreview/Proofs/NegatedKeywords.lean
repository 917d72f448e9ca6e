import LivePreview.Proofs.NegativeClasses
import LivePreview.Proofs.RegularFamilies
/-!
# Keywords below zero

A margin below zero is not read from a keyword. Insets, moves and slides take their lengths from the
table of names and negate whatever they find there, so `-top-auto` sets `top` to `calc(auto * -1)`
(`top_of_negative_auto`). These classes are all that do so: unless a class writes its value out, it
negates a keyword only if it consists of one of the fronts that negate a length (`negatingFronts`)
and of the name of the keyword. The other classes with a minus sign that end in such a name are not
known (`negated_keyword_iff`).
-/
namespace LivePreview.Style.Utility

open Value

variable {c s v k front rest value : String} {names : Names} {u : Utility} {d : Declaration}

/-! ## Classes that negate a keyword -/

/-- The fronts behind which a length is negated, whatever it is. -/
def negatingFronts : List String :=
  insetEdges.map ("-" ++ ·.1) ++ ["x-", "y-", ""].map (fun axis => "-" ++ ("translate-" ++ axis)) ++
    ["slide-in-from-", "slide-out-to-"].flatMap fun word =>
      ["top", "left", "start"].map fun side => word ++ side ++ "-"

/-- Whether a class consists of such a front and of the name of a keyword. -/
def NegatesKeyword (c k : String) : Prop :=
  ∃ front ∈ negatingFronts, ∃ word, (word, k) ∈ sizeKeywords ∧ c = front ++ word

/-! ## Values without dashes -/

theorem not_mem_of_word? {n : Nat} (h : Text.word? s = some n) : '-' ∉ s.toList := by
  intro hmem
  exact absurd (mem_of_word? h '-' hmem) (by decide)

theorem not_mem_of_isDigits (h : Text.isDigits s.toList = true) : '-' ∉ s.toList := by
  intro hmem
  simp only [Text.isDigits, Bool.and_eq_true] at h
  exact absurd (List.all_eq_true.mp h.2 '-' hmem) (by decide)

theorem not_mem_of_spacing? (hs : arbitrary? s = none) (h : spacing? s = some v) :
    '-' ∉ s.toList := by
  rw [spacing?, hs] at h
  dsimp only at h
  split at h
  · rename_i hpixel
    subst hpixel
    decide
  split at h
  · rename_i hzero
    subst hzero
    decide
  split at h
  · rename_i hnumber
    rw [isScaleNumber] at hnumber
    split at hnumber
    · rename_i whole fraction hcut
      obtain rfl := Text.eq_append_of_cut? hcut
      obtain ⟨hwhole, hfraction⟩ := Bool.and_eq_true_iff.mp hnumber
      have hrest : '-' ∉ fraction.toList := by
        obtain (rfl | rfl) | rfl : (fraction = "5" ∨ fraction = "25") ∨ fraction = "75" := by
          simpa using hfraction
        all_goals decide
      simpa [hrest] using not_mem_of_isDigits hwhole
    · exact not_mem_of_isDigits hnumber
  · cases h

theorem not_mem_of_size? {axis : Axis} (hs : arbitrary? s = none) (h : size? axis s = some v) :
    '-' ∉ s.toList := by
  rw [size?, hs] at h
  split at h
  · rename_i w hw
    exact of_find?_map (fun s _ => '-' ∉ s.toList) hw (by cases axis <;> decide)
  dsimp only at h
  split at h
  · rename_i num den hcut
    obtain rfl := Text.eq_append_of_cut? hcut
    obtain ⟨n, hn, h⟩ := Option.bind_eq_some_iff.mp h
    obtain ⟨d, hd, -⟩ := Option.bind_eq_some_iff.mp h
    simpa [not_mem_of_word? hn] using not_mem_of_word? hd
  · exact not_mem_of_spacing? hs h

theorem not_mem_of_numberWith? {unit : String} (hs : arbitrary? s = none)
    (h : numberWith? unit s = some v) : '-' ∉ s.toList := by
  rw [numberWith?, hs] at h
  obtain ⟨n, hn, -⟩ := Option.map_eq_some_iff.mp h
  exact not_mem_of_word? hn

/-- No keyword is read as a number. -/
theorem not_keyword_of_numberWith? {unit : String} (h : numberWith? unit s = some v) :
    s ∉ sizeKeywords.map (·.1) := by
  intro hmem
  have hwords : ∀ w ∈ sizeKeywords.map (·.1), arbitrary? w = none ∧ Text.word? w = none := by decide
  rw [numberWith?, (hwords s hmem).1, (hwords s hmem).2] at h
  cases h

theorem not_keyword_of_spacing? (h : spacing? s = some v) : s ∉ sizeKeywords.map (·.1) := by
  intro hmem
  have hwords : ∀ w ∈ sizeKeywords.map (·.1), spacing? w = none := by decide
  rw [hwords s hmem] at h
  cases h

/-! ## What the families that negate have read -/

/-- How a class is read whose value may be negated: a front with or without a sign, and behind it a
number or, where a length may stand, a keyword. -/
structure Negating (c : String) (u : Utility) (negative : Bool) (front value v : String) :
    Prop where
  sign : sign c = (negative, front ++ value)
  dash : Text.endsWith "-" front = true
  not_mem : '-' ∉ value.toList
  negated : ∀ d ∈ u.declarations, NegatedKeyword d.2 → d.2 = negate negative v
  read : Numeric v ∧ value ∉ sizeKeywords.map (·.1) ∨
    "-" ++ front ∈ negatingFronts ∧ (Numeric v ∨ (value, v) ∈ sizeKeywords)

theorem Negating.class_eq {negative : Bool} (h : Negating c u negative front value v) :
    c = (if negative then "-" else "") ++ front ++ value := by
  rw [eq_of_sign h.sign, String.append_assoc]

/-- A class negates a keyword only where a length may stand. -/
theorem Negating.negatesKeyword {negative : Bool} (h : Negating c u negative front value v)
    (hk : k ∈ sizeKeywords.map (·.2)) (hd : d ∈ u.declarations)
    (hv : d.2 = "calc(" ++ k ++ " * -1)") : NegatesKeyword c k := by
  obtain ⟨e, he, rfl⟩ := List.mem_map.mp hk
  rw [h.negated d hd ⟨e, he, hv⟩] at hv
  rcases h.read with ⟨hnumeric, -⟩ | ⟨hfront, hread⟩
  · exact absurd ⟨e, he, hv⟩ (not_negatedKeyword_negate hnumeric)
  · obtain ⟨rfl, hword⟩ := negative_of_negate hk hread hv
    exact ⟨_, hfront, value, hword, h.class_eq⟩

theorem Unwritten.of_sign {words : List String} {negative : Bool} (hc : Unwritten words c)
    (hsign : sign c = (negative, front ++ value)) (hfront : front ∈ words ∧ "-" ++ front ∈ words) :
    arbitrary? value = none := by
  refine hc _ ?_ value ((eq_of_sign hsign).trans (String.append_assoc ..).symm)
  cases negative with
  | false => simpa using hfront.1
  | true => exact hfront.2

theorem exists_negating_of_inset (hc : Unwritten Family.inset.fronts c) (h : inset? c = some u) :
    ∃ negative front value v, Negating c u negative front value v := by
  rw [inset?] at h
  split at h
  rename_i negative rest hsign
  obtain ⟨⟨edges, value⟩, hcut, h⟩ := Option.bind_eq_some_iff.mp h
  obtain ⟨size, hsize, h⟩ := Option.bind_eq_some_iff.mp h
  obtain rfl := Option.some.inj h
  obtain ⟨edge, ⟨hfront, hdash, hnegating⟩, rfl⟩ := exists_front_of_cutPrefix? (fun edge _ =>
    (edge ∈ Family.inset.fronts ∧ "-" ++ edge ∈ Family.inset.fronts) ∧
      Text.endsWith "-" edge = true ∧ "-" ++ edge ∈ negatingFronts) hcut (by decide)
  have hvalue : arbitrary? value = none := hc.of_sign hsign hfront
  refine ⟨negative, edge, value, size, hsign, hdash, not_mem_of_size? hvalue hsize, ?_,
    .inr ⟨hnegating, numeric_or_keyword_of_size? hvalue hsize⟩⟩
  intro d hd _
  obtain ⟨p, -, rfl⟩ := List.mem_map.mp hd
  rfl

/-- What joins the axes is no negative. -/
theorem eq_of_mem_onAxes {property initial : String} {axes : List String}
    (hd : d ∈ (onAxes property initial axes v).declarations) (hnegated : NegatedKeyword d.2) :
    d.2 = v := by
  rcases List.mem_append.mp hd with hd | hd
  · obtain ⟨axis, -, rfl⟩ := List.mem_map.mp hd
    rfl
  · obtain rfl := List.mem_singleton.mp hd
    refine absurd hnegated ?_
    simp only [String.append_assoc]
    exact not_negatedKeyword_append (by decide) _

/-- A transform has a value behind its front, or is a word without a sign. -/
theorem exists_negating_of_transform (hc : Unwritten Family.transform.fronts c)
    (h : transform? c = some u) : (∃ negative front value v, Negating c u negative front value v) ∨
      u.Regular ∧ Text.after? "-" c = none := by
  rw [transform?] at h
  split at h
  rename_i negative rest hsign
  split at h
  · -- a move is a length
    rename_i r hafter
    split at h
    rename_i axes' value haxes
    obtain ⟨distance, hdistance, h⟩ := Option.bind_eq_some_iff.mp h
    obtain rfl := Option.some.inj h
    obtain ⟨axis, haxis, rfl⟩ := exists_of_axes haxes
    have hfronts : ∀ axis ∈ ["x-", "y-", ""], ("translate-" ++ axis ∈ Family.transform.fronts ∧
        "-" ++ ("translate-" ++ axis) ∈ Family.transform.fronts) ∧
          Text.endsWith "-" ("translate-" ++ axis) = true ∧
          "-" ++ ("translate-" ++ axis) ∈ negatingFronts := by decide
    obtain ⟨hfront, hdash, hnegating⟩ := hfronts axis (List.mem_map_of_mem (f := (·.1)) haxis)
    rw [Text.after?_eq_some.mp hafter, ← String.append_assoc] at hsign
    have hvalue : arbitrary? value = none := hc.of_sign hsign hfront
    exact .inl ⟨negative, _, value, distance, hsign, hdash, not_mem_of_size? hvalue hdistance,
      fun d => eq_of_mem_onAxes, .inr ⟨hnegating, numeric_or_keyword_of_size? hvalue hdistance⟩⟩
  split at h
  · -- a scale and a turn are numbers
    rename_i r hafter
    split at h
    rename_i axes' value haxes
    obtain ⟨factor, hfactor, h⟩ := Option.bind_eq_some_iff.mp h
    obtain rfl := Option.some.inj h
    obtain ⟨axis, haxis, rfl⟩ := exists_of_axes haxes
    have hfronts : ∀ axis ∈ ["x-", "y-", ""], ("scale-" ++ axis ∈ Family.transform.fronts ∧
        "-" ++ ("scale-" ++ axis) ∈ Family.transform.fronts) ∧
          Text.endsWith "-" ("scale-" ++ axis) = true := by decide
    obtain ⟨hfront, hdash⟩ := hfronts axis (List.mem_map_of_mem (f := (·.1)) haxis)
    rw [Text.after?_eq_some.mp hafter, ← String.append_assoc] at hsign
    have hvalue : arbitrary? value = none := hc.of_sign hsign hfront
    exact .inl ⟨negative, _, value, factor, hsign, hdash, not_mem_of_numberWith? hvalue hfactor,
      fun d => eq_of_mem_onAxes,
      .inl ⟨numeric_of_numberWith? hvalue (by decide) hfactor, not_keyword_of_numberWith? hfactor⟩⟩
  split at h
  · rename_i value hafter
    obtain ⟨angle, hangle, rfl⟩ := Option.map_eq_some_iff.mp h
    rw [Text.after?_eq_some.mp hafter] at hsign
    have hvalue : arbitrary? value = none := hc.of_sign hsign (by decide)
    have hnumeric : Numeric angle := numeric_of_numberWith? hvalue (by decide) hangle
    refine .inl ⟨negative, _, value, angle, hsign, by decide, not_mem_of_numberWith? hvalue hangle,
      ?_, .inl ⟨hnumeric, not_keyword_of_numberWith? hangle⟩⟩
    intro d hd _
    obtain rfl := List.mem_singleton.mp hd
    rfl
  · obtain ⟨declarations, hmem, -⟩ := exists_of_inTable? h
    refine .inr ⟨regular_of_inTable? (by decide) h, ?_⟩
    have hwords : ∀ w ∈ ["transform-none", "transform-gpu", "origin-center", "origin-top",
        "origin-top-left"], Text.after? "-" w = none := by decide
    exact hwords c (List.mem_map_of_mem (f := (·.1)) hmem)

/-- A margin below zero is a number. -/
theorem exists_negating_of_padding (hc : Unwritten Family.padding.fronts ("-" ++ rest))
    (h : padding? ("-" ++ rest) = some u) :
    ∃ negative front value v, Negating ("-" ++ rest) u negative front value v := by
  rw [padding?, sign_neg] at h
  obtain ⟨⟨key, value⟩, hcut, h⟩ := Option.bind_eq_some_iff.mp h
  have hsign : sign ("-" ++ rest) = (true, key ++ "-" ++ value) := by
    rw [sign_neg, Text.eq_append_of_cut? hcut]
  dsimp only at h
  split at h
  · rename_i property hlookup
    obtain ⟨hfront, hdash⟩ : (key ++ "-" ∈ Family.padding.fronts ∧
        "-" ++ (key ++ "-") ∈ Family.padding.fronts) ∧ Text.endsWith "-" (key ++ "-") = true :=
      of_find?_map (fun k _ => (k ++ "-" ∈ Family.padding.fronts ∧
        "-" ++ (k ++ "-") ∈ Family.padding.fronts) ∧ Text.endsWith "-" (k ++ "-") = true)
        hlookup (by decide)
    have hvalue : arbitrary? value = none := hc.of_sign hsign hfront
    split at h
    · cases h
    · obtain ⟨v, hv, h⟩ := Option.bind_eq_some_iff.mp h
      obtain rfl := Option.some.inj h
      refine ⟨true, _, value, v, hsign, hdash, not_mem_of_spacing? hvalue hv, ?_,
        .inl ⟨numeric_of_spacing? hvalue hv, not_keyword_of_spacing? hv⟩⟩
      intro d hd _
      obtain rfl := List.mem_singleton.mp hd
      rfl
  · obtain ⟨property, -, h⟩ := Option.bind_eq_some_iff.mp h
    cases h

/-- An element slides in the negative direction from the top and from the start. -/
theorem negatesKeyword_of_slide {phase : String}
    (hc : Unwritten Family.enterExit.fronts (front ++ rest))
    (hfront : front ∈ ["slide-in-from-", "slide-out-to-"]) (h : slide? phase rest = some u)
    (hk : k ∈ sizeKeywords.map (·.2)) (hd : d ∈ u.declarations)
    (hv : d.2 = "calc(" ++ k ++ " * -1)") : NegatesKeyword (front ++ rest) k := by
  obtain ⟨side, axis, negative, distance, hside, rfl, hrest⟩ := exists_of_slide? h
  obtain rfl := List.mem_singleton.mp hd
  rcases hrest with ⟨-, rfl⟩ | ⟨value, rfl, hsize⟩
  · obtain ⟨e, he, rfl⟩ := List.mem_map.mp hk
    exact absurd ⟨e, he, hv⟩ (not_negatedKeyword_negate (by decide))
  · have hclass : front ++ (side ++ "-" ++ value) = front ++ side ++ "-" ++ value := by
      simp only [String.append_assoc]
    have hsides : ∀ front ∈ ["slide-in-from-", "slide-out-to-"],
        front ++ side ++ "-" ∈ Family.enterExit.fronts ∧
          (negative = true → front ++ side ++ "-" ∈ negatingFronts) :=
      of_find?_map (fun side place => ∀ front ∈ ["slide-in-from-", "slide-out-to-"],
        front ++ side ++ "-" ∈ Family.enterExit.fronts ∧
          (place.2 = true → front ++ side ++ "-" ∈ negatingFronts)) hside (by decide)
    obtain ⟨hknown, hnegating⟩ := hsides front hfront
    have hvalue : arbitrary? value = none := hc _ hknown value hclass
    obtain ⟨rfl, hword⟩ :=
      negative_of_negate hk (numeric_or_keyword_of_size? hvalue hsize) hv
    exact ⟨_, hnegating rfl, value, hword, hclass⟩

theorem negatesKeyword_of_enterExit (hc : Unwritten Family.enterExit.fronts c)
    (h : enterExit? c = some u) (hk : k ∈ sizeKeywords.map (·.2)) (hd : d ∈ u.declarations)
    (hv : d.2 = "calc(" ++ k ++ " * -1)") : NegatesKeyword c k := by
  rw [enterExit?] at h
  split at h
  · rename_i phase kind amount hcut
    have hregular : u.Regular := by
      dsimp only at h
      split at h
      · obtain ⟨value, hvalue, h⟩ := Option.bind_eq_some_iff.mp h
        obtain rfl := Option.some.inj hvalue
        obtain rfl := Option.some.inj h
        refine regular_one ?_
        split <;> decide
      · obtain ⟨rest, hafter, h⟩ := Option.bind_eq_some_iff.mp h
        obtain ⟨value, hvalue, h⟩ := Option.bind_eq_some_iff.mp h
        obtain rfl := Option.some.inj h
        obtain ⟨word, hword, rfl⟩ := exists_front_of_cutPrefix?
          (fun word _ => word ++ "-" ∈ Family.enterExit.fronts) hcut (by decide)
        have hrest : arbitrary? rest = none :=
          hc _ hword rest (by rw [Text.after?_eq_some.mp hafter, String.append_assoc])
        refine regular_one (numeric_of_numberWith? hrest ?_ hvalue).2
        split <;> decide
    obtain ⟨e, he, rfl⟩ := List.mem_map.mp hk
    exact absurd ⟨e, he, hv⟩ (hregular d hd)
  · obtain ⟨⟨phase, rest⟩, hcut, hslide⟩ := Option.bind_eq_some_iff.mp h
    obtain ⟨front, hfront, rfl⟩ := exists_front_of_cutPrefix?
      (fun front _ => front ∈ ["slide-in-from-", "slide-out-to-"]) hcut (by decide)
    exact negatesKeyword_of_slide hc hfront hslide hk hd hv

/-- The other families negate no keyword. -/
theorem keepsRegular (family : Family) (h : family ∉ [Family.inset, .transform, .enterExit]) :
    KeepsRegular family.fronts (family.read names) := by
  cases family with
  | inset | transform | enterExit => exact absurd (by decide) h
  | display => exact Family.keepsRegular_display
  | zIndex => exact Family.keepsRegular_zIndex
  | overflow => exact Family.keepsRegular_overflow
  | appearance => exact Family.keepsRegular_appearance
  | flex => exact Family.keepsRegular_flex
  | grid => exact Family.keepsRegular_grid
  | align => exact Family.keepsRegular_align
  | gap => exact Family.keepsRegular_gap
  | between => exact Family.keepsRegular_between
  | padding => exact Family.keepsRegular_padding
  | sizing => exact Family.keepsRegular_sizing
  | typography => exact Family.keepsRegular_typography
  | color => exact Family.keepsRegular_color
  | border => exact Family.keepsRegular_border
  | radius => exact Family.keepsRegular_radius
  | ring => exact Family.keepsRegular_ring
  | shadow => exact Family.keepsRegular_shadow
  | opacity => exact Family.keepsRegular_opacity
  | interaction => exact Family.keepsRegular_interaction
  | outline => exact Family.keepsRegular_outline
  | filter => exact Family.keepsRegular_filter
  | transition => exact Family.keepsRegular_transition
  | animation => exact Family.keepsRegular_animation
  | drawing => exact Family.keepsRegular_drawing

theorem negatesKeyword_of_read {family : Family} (hc : Unwritten family.fronts c)
    (h : family.read names c = some u) (hk : k ∈ sizeKeywords.map (·.2)) (hd : d ∈ u.declarations)
    (hv : d.2 = "calc(" ++ k ++ " * -1)") : NegatesKeyword c k := by
  have hregular : u.Regular → NegatesKeyword c k := by
    intro hregular
    obtain ⟨e, he, rfl⟩ := List.mem_map.mp hk
    exact absurd ⟨e, he, hv⟩ (hregular d hd)
  by_cases hfamily : family ∈ [Family.inset, .transform, .enterExit]
  · simp only [List.mem_cons, List.not_mem_nil, or_false] at hfamily
    rcases hfamily with rfl | rfl | rfl
    · obtain ⟨_, _, _, _, hread⟩ := exists_negating_of_inset hc h
      exact hread.negatesKeyword hk hd hv
    · rcases exists_negating_of_transform hc h with ⟨_, _, _, _, hread⟩ | ⟨hwords, -⟩
      · exact hread.negatesKeyword hk hd hv
      · exact hregular hwords
    · exact negatesKeyword_of_enterExit hc h hk hd hv
  · exact hregular (keepsRegular family hfamily hc h)

/-! ## Classes that are not known -/

/-- The last dash of a text separates its last word. -/
theorem eq_of_last_dash {a b x y : String} (h : a ++ "-" ++ x = b ++ "-" ++ y)
    (hx : '-' ∉ x.toList) (hy : '-' ∉ y.toList) : x = y := by
  have hreverse : ∀ {a x : String}, '-' ∉ x.toList →
      Text.cutChars? ['-'] (a ++ "-" ++ x).toList.reverse =
        some (x.toList.reverse, a.toList.reverse) := by
    intro a x hx
    simpa using cutChars?_append_of_not_mem (a := x.toList.reverse) (by simpa using hx)
      a.toList.reverse
  have hcut := hreverse (a := a) hx
  rw [h, hreverse hy] at hcut
  simpa [String.toList_inj] using (Prod.mk.inj (Option.some.inj hcut)).1.symm

/-- Behind a sign and a keyword at its end, a class is known only if it negates the keyword. -/
theorem negatesKeyword_of_known (hc : ∀ family : Family, Unwritten family.fronts c)
    (h : utility? names c = some u) {r word : String} (hword : (word, k) ∈ sizeKeywords)
    (hclass : c = "-" ++ (r ++ "-" ++ word)) : NegatesKeyword c k := by
  have hwords : ∀ e ∈ sizeKeywords, '-' ∉ e.1.toList := by decide
  have hnegating : (∃ negative front value v, Negating c u negative front value v) →
      NegatesKeyword c k := by
    rintro ⟨negative, front, value, v, hread⟩
    obtain ⟨f, hf⟩ := Text.endsWith_eq_true.mp hread.dash
    obtain ⟨hnegative, hrest⟩ : true = negative ∧ r ++ "-" ++ word = front ++ value := by
      simpa [hclass, sign_neg] using hread.sign
    obtain rfl : word = value :=
      eq_of_last_dash (hf ▸ hrest) (hwords _ hword) hread.not_mem
    rcases hread.read with ⟨-, hnone⟩ | ⟨hfront, -⟩
    · exact absurd (List.mem_map_of_mem (f := (·.1)) hword) hnone
    · refine ⟨_, hfront, word, hword, ?_⟩
      rw [hread.class_eq, ← hnegative, if_pos rfl]
  -- no other family knows classes with a sign
  have hfamilies : Family.all.filter (·.begins "-") = [.inset, .padding, .transform] := by decide
  subst hclass
  rw [utility?_append, hfamilies] at h
  obtain ⟨family, hmem, hfamily⟩ := List.exists_of_findSome?_eq_some h
  simp only [List.mem_cons, List.not_mem_nil, or_false] at hmem
  rcases hmem with rfl | rfl | rfl
  · exact hnegating (exists_negating_of_inset (hc .inset) hfamily)
  · exact hnegating (exists_negating_of_padding (hc .padding) hfamily)
  · rcases exists_negating_of_transform (hc .transform) hfamily with hread | ⟨-, hnone⟩
    · exact hnegating hread
    · rw [after?_append] at hnone
      cases hnone

/-! ## Classes that are known -/

/-- A keyword is read as a length, and negated as if it were a number. -/
theorem negate_of_keyword {word : String} (h : (word, k) ∈ sizeKeywords) :
    size? .width word = some k ∧ negate true k = "calc(" ++ k ++ " * -1)" := by
  have hwords : ∀ e ∈ sizeKeywords,
      size? .width e.1 = some e.2 ∧ negate true e.2 = "calc(" ++ e.2 ++ " * -1)" := by decide
  exact hwords _ h

theorem exists_of_negated_inset {edge : String × List String} {word : String}
    (hedge : edge ∈ insetEdges) (hword : (word, k) ∈ sizeKeywords) :
    ∃ u, utility? names ("-" ++ edge.1 ++ word) = some u ∧
      ∃ d ∈ u.declarations, d.2 = "calc(" ++ k ++ " * -1)" := by
  have hedges : ∀ edge ∈ insetEdges, edge.2 ≠ [] ∧
      ∀ e ∈ sizeKeywords, cutPrefix? insetEdges (edge.1 ++ e.1) = some (edge.2, e.1) := by
    decide +kernel
  obtain ⟨hne, hcut⟩ := hedges edge hedge
  obtain ⟨p, hp⟩ := List.exists_mem_of_ne_nil _ hne
  obtain ⟨hsize, hnegate⟩ := negate_of_keyword hword
  refine ⟨same edge.2 (negate true k), ?_, (p, negate true k), ?_, hnegate⟩
  · rw [String.append_assoc, (read_inset names (List.mem_map_of_mem (f := (·.1)) hedge) word).2]
    simp [inset?, sign_neg, hcut _ hword, hsize]
  · exact List.mem_map_of_mem (f := fun p => (p, negate true k)) hp

theorem exists_of_negated_translate {axis word : String} (haxis : axis ∈ ["x-", "y-", ""])
    (hword : (word, k) ∈ sizeKeywords) :
    ∃ u, utility? names ("-" ++ ("translate-" ++ axis) ++ word) = some u ∧
      ∃ d ∈ u.declarations, d.2 = "calc(" ++ k ++ " * -1)" := by
  have haxes : ∀ axis ∈ ["x-", "y-", ""], ∀ e ∈ sizeKeywords,
      (axes (axis ++ e.1)).1 ≠ [] ∧ (axes (axis ++ e.1)).2 = e.1 := by decide
  obtain ⟨hne, hvalue⟩ := haxes axis haxis _ hword
  obtain ⟨a, ha⟩ := List.exists_mem_of_ne_nil _ hne
  obtain ⟨hsize, hnegate⟩ := negate_of_keyword hword
  refine ⟨onAxes "translate" "0" (axes (axis ++ word)).1 (negate true k), ?_,
    ("--tw-" ++ "translate" ++ "-" ++ a, negate true k), ?_, hnegate⟩
  · rw [String.append_assoc, String.append_assoc, (read_transform names (by decide) (axis ++ word)).2]
    simp [transform?, sign_neg, after?_append, hvalue, hsize]
  · exact List.mem_append_left _
      (List.mem_map_of_mem (f := fun a => ("--tw-" ++ "translate" ++ "-" ++ a, negate true k)) ha)

theorem cutPrefix?_of_apart {α : Type} {table : List (String × α)}
    (h : ∀ e ∈ table, apart e.1 front = true) (rest : String) :
    cutPrefix? table (front ++ rest) = none := by
  rw [Option.eq_none_iff_forall_ne_some]
  rintro ⟨x, r⟩ hcut
  obtain ⟨word, hapart, heq⟩ :=
    exists_front_of_cutPrefix? (fun word _ => apart word front = true) hcut h
  exact append_ne_append hapart r rest heq.symm

theorem enterExit?_slide {phase : String}
    (h : (front, phase) ∈ [("slide-in-from-", "enter"), ("slide-out-to-", "exit")])
    (rest : String) : enterExit? (front ++ rest) = slide? phase rest := by
  have hapart : ∀ e ∈ [("slide-in-from-", "enter"), ("slide-out-to-", "exit")],
      ∀ word ∈ ["fade-in", "fade-out", "zoom-in", "zoom-out", "spin-in", "spin-out"],
        apart word e.1 = true := by decide
  have hcut : cutPrefix? [("slide-in-from-", "enter"), ("slide-out-to-", "exit")] (front ++ rest) =
      some (phase, rest) := by
    simp only [List.mem_cons, Prod.mk.injEq, List.not_mem_nil, or_false] at h
    rcases h with ⟨rfl, rfl⟩ | ⟨rfl, rfl⟩
    · simp [cutPrefix?, after?_append]
    · have hin : Text.after? "slide-in-from-" ("slide-out-to-" ++ rest) = none :=
        after?_append_of_apart (by decide) rest
      simp [cutPrefix?, after?_append, hin]
  rw [enterExit?, cutPrefix?_of_apart (by simpa using hapart _ h), hcut]
  rfl

theorem exists_of_negated_slide {front side word : String}
    (hfront : front ∈ ["slide-in-from-", "slide-out-to-"]) (hside : side ∈ ["top", "left", "start"])
    (hword : (word, k) ∈ sizeKeywords) :
    ∃ u, utility? names (front ++ side ++ "-" ++ word) = some u ∧
      ∃ d ∈ u.declarations, d.2 = "calc(" ++ k ++ " * -1)" := by
  have hfronts : ∀ front ∈ ["slide-in-from-", "slide-out-to-"],
      Family.all.filter (·.begins front) = [.enterExit] ∧ ∃ phase ∈ ["enter", "exit"],
        (front, phase) ∈ [("slide-in-from-", "enter"), ("slide-out-to-", "exit")] := by decide
  have hsides : ∀ side ∈ ["top", "left", "start"], '-' ∉ side.toList ∧
      ∃ axis ∈ ["x", "y"], side? side = some (axis, true) := by decide
  obtain ⟨hsingle, phase, -, hphase⟩ := hfronts front hfront
  obtain ⟨hdash, axis, -, haxis⟩ := hsides side hside
  obtain ⟨hsize, hnegate⟩ := negate_of_keyword hword
  refine ⟨one ("--tw-" ++ phase ++ "-translate-" ++ axis) (negate true k), ?_, _,
    List.mem_singleton_self _, hnegate⟩
  have hclass : front ++ side ++ "-" ++ word = front ++ (side ++ "-" ++ word) := by
    simp only [String.append_assoc]
  rw [hclass, utility?_append_of_single hsingle, Family.read, enterExit?_slide hphase]
  simp [slide?, cut?_append_of_not_mem hdash, haxis, hsize]

/-- A keyword behind a front that negates a length is negated. -/
theorem exists_of_negatesKeyword (names : Names) (h : NegatesKeyword c k) :
    ∃ u, utility? names c = some u ∧ ∃ d ∈ u.declarations, d.2 = "calc(" ++ k ++ " * -1)" := by
  obtain ⟨front, hfront, word, hword, rfl⟩ := h
  rw [negatingFronts, List.mem_append, List.mem_append] at hfront
  rcases hfront with (hinset | htranslate) | hslide
  · obtain ⟨edge, hedge, rfl⟩ := List.mem_map.mp hinset
    exact exists_of_negated_inset hedge hword
  · obtain ⟨axis, haxis, rfl⟩ := List.mem_map.mp htranslate
    exact exists_of_negated_translate haxis hword
  · obtain ⟨slide, hfront, hsides⟩ := List.mem_flatMap.mp hslide
    obtain ⟨side, hside, rfl⟩ := List.mem_map.mp hsides
    exact exists_of_negated_slide hfront hside hword

/-- **A class that writes no value out negates a keyword** exactly if it consists of a front that
negates a length and of the name of the keyword; if it is another class with a minus sign in front
and such a name behind a dash, it is not known. -/
theorem negated_keyword_iff (names : Names) (hc : ∀ family : Family, Unwritten family.fronts c)
    (hk : k ∈ sizeKeywords.map (·.2)) :
    ((∃ u, utility? names c = some u ∧ ∃ d ∈ u.declarations, d.2 = "calc(" ++ k ++ " * -1)") ↔
        NegatesKeyword c k) ∧
      ∀ r word, (word, k) ∈ sizeKeywords → c = "-" ++ (r ++ "-" ++ word) → ¬ NegatesKeyword c k →
        utility? names c = none := by
  refine ⟨⟨?_, exists_of_negatesKeyword names⟩, ?_⟩
  · rintro ⟨u, hu, d, hd, hv⟩
    obtain ⟨family, hmem, hfamily⟩ := List.exists_of_findSome?_eq_some hu
    obtain ⟨family, -, rfl⟩ := List.mem_map.mp (families_eq_map names ▸ hmem)
    exact negatesKeyword_of_read (hc family) hfamily hk hd hv
  · intro r word hword hclass hnone
    rw [Option.eq_none_iff_forall_ne_some]
    exact fun u hu => hnone (negatesKeyword_of_known hc hu hword hclass)

/-- A slide from the top negates a keyword, and a margin does not. -/
theorem negated_keyword_iff_of_slide :
    (∃ u, utility? ⟨[], []⟩ "slide-in-from-top-fit" = some u ∧
        ∃ d ∈ u.declarations, d.2 = "calc(fit-content * -1)") ∧
      utility? ⟨[], []⟩ "-mt-auto" = none := by
  have hslide := negated_keyword_iff (c := "slide-in-from-top-fit") (k := "fit-content") ⟨[], []⟩
    (fun _ => unwritten_of_unopened (by decide)) (by decide)
  have hmargin := negated_keyword_iff (c := "-mt-auto") (k := "auto") ⟨[], []⟩
    (fun _ => unwritten_of_unopened (by decide)) (by decide)
  have hfront : "slide-in-from-top-" ∈ negatingFronts := by decide
  have hother : ∀ front ∈ negatingFronts, ∀ e ∈ sizeKeywords, "-mt-auto" ≠ front ++ e.1 := by decide
  refine ⟨hslide.1.mpr ⟨_, hfront, "fit", by decide, rfl⟩,
    hmargin.2 "mt" "auto" (by decide) rfl ?_⟩
  rintro ⟨front, hmem, word, hword, heq⟩
  exact hother front hmem _ hword heq

/-- The distance from the top is set to the negative of a keyword. -/
theorem top_of_negative_auto :
    ¬ ∀ (names : Names) (c : String), (∀ family : Family, Unwritten family.fronts c) →
      ∀ u, utility? names c = some u → ∀ d ∈ u.declarations, ∀ k ∈ sizeKeywords.map (·.2),
        d.2 ≠ "calc(" ++ k ++ " * -1)" := by
  intro h
  have hclass : utility? ⟨[], []⟩ "-top-auto" = some (one "top" "calc(auto * -1)") := by decide
  exact h ⟨[], []⟩ "-top-auto" (fun _ => unwritten_of_unopened (by decide)) _ hclass _
    List.mem_cons_self "auto" (by decide) rfl

end LivePreview.Style.Utility
