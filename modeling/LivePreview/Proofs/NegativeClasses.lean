import LivePreview.Proofs.ClassFronts
import Mathlib.Data.List.Forall2
/-!
# Negative classes

Three families know classes with a minus sign in front: insets, margins and transforms. Each of them
takes the sign off, reads what is left as it would without the sign, and negates the values that it
has read. So the utility of a negative class is the negative of the utility of the positive one
(`utility?_neg`), and a class has a negative if it is one of these three families that knows it and
the class is not an automatic margin (`takesSign`).
-/
namespace LivePreview.Style.Utility

open Value

variable {names : Names} {r v front rest : String} {u : Utility} {properties : List String}

/-! ## Negative declarations -/

/-- The negative of a declaration; a property that only joins the values of the axes stays. -/
def negateDeclaration (d : Declaration) : Declaration :=
  (d.1, if d.1 = "translate" ∨ d.1 = "scale" then d.2 else negate true d.2)

/-- What a class does with a minus sign in front. -/
def negative (u : Utility) : Utility :=
  { u with declarations := u.declarations.map negateDeclaration }

/-- Whether the second declaration is the negative of the first one. Where there is nothing to
negate, and where axes are joined, it is the same. -/
def Negates (d e : Declaration) : Prop :=
  e.1 = d.1 ∧
    (e.2 = d.2 ∧ (d.2 = "0px" ∨ d.1 = "translate" ∨ d.1 = "scale") ∨
      e.2 = "calc(" ++ d.2 ++ " * -1)")

theorem negates_negateDeclaration (d : Declaration) : Negates d (negateDeclaration d) := by
  refine ⟨rfl, ?_⟩
  by_cases hjoins : d.1 = "translate" ∨ d.1 = "scale"
  · exact .inl ⟨if_pos hjoins, .inr hjoins⟩
  · have hvalue : (negateDeclaration d).2 = negate true d.2 := if_neg hjoins
    rw [hvalue]
    by_cases hzero : d.2 = "0px"
    · exact .inl ⟨by simp [negate, hzero], .inl hzero⟩
    · exact .inr (by simp [negate, hzero])

theorem negates_negative (u : Utility) :
    List.Forall₂ Negates u.declarations u.negative.declarations :=
  List.forall₂_map_right_iff.mpr
    (List.forall₂_same.mpr fun d _ => negates_negateDeclaration d)

theorem negate_false (v : String) : negate false v = v := rfl

theorem negative_same (h : ∀ p ∈ properties, p ≠ "translate" ∧ p ≠ "scale") (v : String) :
    (same properties v).negative = same properties (negate true v) := by
  have hmap : (properties.map fun p => negateDeclaration (p, v)) =
      properties.map fun p => (p, negate true v) :=
    List.map_congr_left fun p hp =>
      congrArg (Prod.mk p) (if_neg (not_or.mpr (h p hp)))
  simpa [negative, same, ofList] using hmap

theorem negative_one {p : String} (h : p ≠ "translate" ∧ p ≠ "scale") (v : String) :
    (one p v).negative = one p (negate true v) :=
  @negative_same [p] (by simpa using h) v

/-- The values of the axes are negated, and what joins them stays. -/
theorem negative_onAxes {property : String} (h : property = "translate" ∨ property = "scale")
    (initial : String) (axes : List String) (v : String) :
    (onAxes property initial axes v).negative = onAxes property initial axes (negate true v) := by
  have hvariable : ∀ axis, negateDeclaration ("--tw-" ++ property ++ "-" ++ axis, v) =
      ("--tw-" ++ property ++ "-" ++ axis, negate true v) := by
    intro axis
    have hne : ∀ word, apart "--tw-" word = true →
        "--tw-" ++ property ++ "-" ++ axis ≠ word := by
      intro word hword heq
      rw [String.append_assoc, String.append_assoc] at heq
      exact append_ne_append hword _ "" (by rw [heq, String.append_empty])
    exact congrArg (Prod.mk _) (if_neg (not_or.mpr ⟨hne _ (by decide), hne _ (by decide)⟩))
  have hjoins : ∀ use, negateDeclaration (property, use) = (property, use) := fun use =>
    congrArg (Prod.mk property) (if_pos h)
  simp [negative, onAxes, ofList, hvariable, hjoins]

/-! ## The three families -/

theorem sign_neg (r : String) : sign ("-" ++ r) = (true, r) := by
  rw [sign, after?_append]

theorem sign_append (h : apart "-" front = true) (rest : String) :
    sign (front ++ rest) = (false, front ++ rest) := by
  rw [sign, after?_append_of_apart h]

theorem inset?_neg (h : sign r = (false, r)) : inset? ("-" ++ r) = (inset? r).map negative := by
  simp only [inset?, sign_neg, h, Option.bind_eq_bind]
  cases hcut : cutPrefix? insetEdges r with
  | none => rfl
  | some p =>
    obtain ⟨edges, value⟩ := p
    obtain ⟨front, hmem, -⟩ := exists_of_cutPrefix? hcut
    have hedges : ∀ e ∈ insetEdges, ∀ p ∈ e.2, p ≠ "translate" ∧ p ≠ "scale" := by decide
    simp only [Option.bind_some]
    cases size? .width value with
    | none => rfl
    | some size => simp [negate_false, negative_same (hedges _ hmem)]

/-- An automatic margin has no negative. -/
theorem padding?_neg {margin : String × String} (hmargin : margin ∈ margins) (value : String) :
    padding? ("-" ++ (margin.1 ++ "-" ++ value)) =
      if value = "auto" then none
      else (padding? (margin.1 ++ "-" ++ value)).map negative := by
  obtain ⟨key, property⟩ := margin
  have hkeys : ∀ e ∈ margins, apart "-" e.1 = true ∧ '-' ∉ e.1.toList ∧
      lookup? margins e.1 = some e.2 ∧ e.2 ≠ "translate" ∧ e.2 ≠ "scale" := by decide
  obtain ⟨hapart, hdash, hlookup, hproperty⟩ := hkeys _ hmargin
  have hsign : sign (key ++ "-" ++ value) = (false, key ++ "-" ++ value) := by
    rw [String.append_assoc]
    exact sign_append hapart _
  simp only [padding?, sign_neg, hsign, cut?_append_of_not_mem hdash, Option.bind_eq_bind,
    Option.bind_some, hlookup]
  by_cases hauto : value = "auto"
  · simp [hauto]
  · cases spacing? value with
    | none => simp [hauto]
    | some v => simp [hauto, negate_false, negative_one hproperty]

theorem transform?_neg (h : sign r = (false, r))
    (hword : ∃ word ∈ ["translate-", "scale-", "rotate-"], Text.startsWith word r = true) :
    transform? ("-" ++ r) = (transform? r).map negative := by
  rw [transform?, transform?, sign_neg, h]
  dsimp only
  cases htranslate : Text.after? "translate-" r with
  | some rest =>
    cases hsize : size? .width (axes rest).2 with
    | none => simp [hsize]
    | some distance => simp [hsize, negate_false, negative_onAxes]
  | none =>
  cases hscale : Text.after? "scale-" r with
  | some rest =>
    cases hfactor : numberWith? "%" (axes rest).2 with
    | none => simp [hfactor]
    | some factor => simp [hfactor, negate_false, negative_onAxes]
  | none =>
  cases hrotate : Text.after? "rotate-" r with
  | some value =>
    cases hangle : numberWith? "deg" value with
    | none => simp [hangle]
    | some angle => simp [hangle, negate_false, negative_one]
  | none => simp [Text.startsWith, htranslate, hscale, hrotate] at hword

/-! ## Classes with a sign -/

/-- The words in front of which a sign may stand. -/
def signedFronts : List String :=
  insetEdges.map (·.1) ++ margins.map (·.1 ++ "-") ++ ["translate-", "scale-", "rotate-"]

/-- Whether a sign in front of a class counts. -/
def takesSign (r : String) : Bool :=
  signedFronts.any (Text.startsWith · r) && !(margins.map (·.1 ++ "-" ++ "auto")).contains r

theorem takesSign_append (h : front ∈ signedFronts) (rest : String) :
    takesSign (front ++ rest) = !(margins.map (·.1 ++ "-" ++ "auto")).contains (front ++ rest) := by
  have hany : signedFronts.any (Text.startsWith · (front ++ rest)) = true :=
    List.any_eq_true.mpr ⟨front, h, by simp [Text.startsWith, after?_append]⟩
  rw [takesSign, hany, Bool.true_and]

theorem takesSign_of_apart (h : front ∈ signedFronts)
    (hmargins : ∀ e ∈ margins, apart front (e.1 ++ "-" ++ "auto") = true) (rest : String) :
    takesSign (front ++ rest) = true := by
  rw [takesSign_append h, Bool.not_eq_true', List.contains_eq_mem, decide_eq_false_iff_not]
  intro hmem
  obtain ⟨e, he, heq⟩ := List.mem_map.mp hmem
  exact append_ne_append (hmargins e he) rest "" (by rw [String.append_empty, heq])

theorem takesSign_margin {margin : String × String} (h : margin ∈ margins) (value : String) :
    takesSign (margin.1 ++ "-" ++ value) = !decide (value = "auto") := by
  have hdash : ∀ e ∈ margins, margin.1 ++ "-" ∈ signedFronts ∧ '-' ∉ e.1.toList := by
    have hall : ∀ m ∈ margins, ∀ e ∈ margins, m.1 ++ "-" ∈ signedFronts ∧ '-' ∉ e.1.toList := by
      decide
    exact hall _ h
  rw [takesSign_append (hdash _ h).1, List.contains_eq_mem, Bool.not_inj_iff, decide_eq_decide,
    List.mem_map]
  constructor
  · rintro ⟨e, he, heq⟩
    have hcut := cut?_append_of_not_mem (hdash _ h).2 value
    rw [← heq, cut?_append_of_not_mem (hdash e he).2] at hcut
    exact (Prod.mk.inj (Option.some.inj hcut)).2.symm
  · rintro rfl
    exact ⟨margin, h, rfl⟩

/-- No other family knows classes with a sign. -/
theorem exists_signedFront (h : utility? names ("-" ++ r) = some u) :
    ∃ word ∈ signedFronts, ∃ rest, r = word ++ rest := by
  obtain ⟨family, hmem, hfamily⟩ := List.exists_of_findSome?_eq_some h
  obtain ⟨family, -, rfl⟩ := List.mem_map.mp (families_eq_map names ▸ hmem)
  obtain ⟨front, hfront, rest, heq⟩ := Family.fronted family hfamily
  have hfronts : ∀ family : Family, ∀ front ∈ family.fronts, apart "-" front = true ∨
      ∃ word ∈ signedFronts, Text.startsWith ("-" ++ word) front = true := by
    intro family
    cases family <;> decide
  rcases hfronts family front hfront with hapart | ⟨word, hword, hstarts⟩
  · exact absurd heq (append_ne_append hapart r rest)
  · obtain ⟨more, hmore⟩ := Option.isSome_iff_exists.mp hstarts
    rw [Text.after?_eq_some.mp hmore, String.append_assoc, String.append_assoc] at heq
    exact ⟨word, hword, more ++ rest, by simpa [← String.toList_inj] using heq⟩

/-- Behind a front that one family knows with and without a sign, only that family counts. -/
theorem read_of_single {family : Family} (h : Family.all.filter (·.begins front) = [family] ∧
    Family.all.filter (·.begins ("-" ++ front)) = [family]) (rest : String) :
    utility? names (front ++ rest) = family.read names (front ++ rest) ∧
      utility? names ("-" ++ (front ++ rest)) = family.read names ("-" ++ (front ++ rest)) := by
  rw [← String.append_assoc]
  exact ⟨utility?_append_of_single h.1 rest, utility?_append_of_single h.2 rest⟩

theorem read_inset (names : Names) (h : front ∈ insetEdges.map (·.1)) (rest : String) :
    utility? names (front ++ rest) = inset? (front ++ rest) ∧
      utility? names ("-" ++ (front ++ rest)) = inset? ("-" ++ (front ++ rest)) := by
  have hsingle : ∀ front ∈ insetEdges.map (·.1),
      Family.all.filter (·.begins front) = [.inset] ∧
        Family.all.filter (·.begins ("-" ++ front)) = [.inset] := by decide +kernel
  exact read_of_single (hsingle front h) rest

theorem read_margin (names : Names) {margin : String × String} (h : margin ∈ margins)
    (value : String) :
    utility? names (margin.1 ++ "-" ++ value) = padding? (margin.1 ++ "-" ++ value) ∧
      utility? names ("-" ++ (margin.1 ++ "-" ++ value)) =
        padding? ("-" ++ (margin.1 ++ "-" ++ value)) := by
  have hsingle : ∀ e ∈ margins, Family.all.filter (·.begins (e.1 ++ "-")) = [.padding] ∧
      Family.all.filter (·.begins ("-" ++ (e.1 ++ "-"))) = [.padding] := by decide +kernel
  exact read_of_single (hsingle margin h) value

theorem read_transform (names : Names) (h : front ∈ ["translate-", "scale-", "rotate-"])
    (rest : String) :
    utility? names (front ++ rest) = transform? (front ++ rest) ∧
      utility? names ("-" ++ (front ++ rest)) = transform? ("-" ++ (front ++ rest)) := by
  have hsingle : ∀ front ∈ ["translate-", "scale-", "rotate-"],
      Family.all.filter (·.begins front) = [.transform] ∧
        Family.all.filter (·.begins ("-" ++ front)) = [.transform] := by decide +kernel
  exact read_of_single (hsingle front h) rest

theorem utility?_neg_inset (names : Names) (h : front ∈ insetEdges.map (·.1)) (rest : String) :
    takesSign (front ++ rest) = true ∧
      utility? names ("-" ++ (front ++ rest)) = (utility? names (front ++ rest)).map negative := by
  have hfronts : ∀ front ∈ insetEdges.map (·.1), front ∈ signedFronts ∧ apart "-" front = true ∧
      ∀ e ∈ margins, apart front (e.1 ++ "-" ++ "auto") = true := by decide
  obtain ⟨hmem, hdash, hapart⟩ := hfronts front h
  obtain ⟨hpositive, hnegative⟩ := read_inset names h rest
  rw [hpositive, hnegative]
  exact ⟨takesSign_of_apart hmem hapart rest, inset?_neg (sign_append hdash rest)⟩

theorem utility?_neg_margin (names : Names) {margin : String × String} (h : margin ∈ margins)
    (value : String) :
    utility? names ("-" ++ (margin.1 ++ "-" ++ value)) =
      if value = "auto" then none
      else (utility? names (margin.1 ++ "-" ++ value)).map negative := by
  obtain ⟨hpositive, hnegative⟩ := read_margin names h value
  rw [hpositive, hnegative]
  exact padding?_neg h value

theorem utility?_neg_transform (names : Names) (h : front ∈ ["translate-", "scale-", "rotate-"])
    (rest : String) :
    takesSign (front ++ rest) = true ∧
      utility? names ("-" ++ (front ++ rest)) = (utility? names (front ++ rest)).map negative := by
  have hfronts : ∀ front ∈ ["translate-", "scale-", "rotate-"], front ∈ signedFronts ∧
      apart "-" front = true ∧ ∀ e ∈ margins, apart front (e.1 ++ "-" ++ "auto") = true := by
    decide
  obtain ⟨hmem, hdash, hapart⟩ := hfronts front h
  obtain ⟨hpositive, hnegative⟩ := read_transform names h rest
  rw [hpositive, hnegative]
  refine ⟨takesSign_of_apart hmem hapart rest, transform?_neg (sign_append hdash rest) ?_⟩
  exact ⟨front, h, by simp [Text.startsWith, after?_append]⟩

/-- **The utility of a negative class** is the negative of that of the positive class, and there is
none where a sign does not count. -/
theorem utility?_neg (names : Names) (r : String) :
    utility? names ("-" ++ r) =
      if takesSign r then (utility? names r).map negative else none := by
  by_cases hfront : ∃ front ∈ signedFronts, ∃ rest, r = front ++ rest
  · obtain ⟨front, hmem, rest, rfl⟩ := hfront
    obtain (hinset | hspacing) | htransform :
        (front ∈ insetEdges.map (·.1) ∨ front ∈ margins.map (·.1 ++ "-")) ∨
          front ∈ ["translate-", "scale-", "rotate-"] := by
      simpa only [signedFronts, List.mem_append] using hmem
    · obtain ⟨hsign, hneg⟩ := utility?_neg_inset names hinset rest
      rw [hsign, if_pos rfl, hneg]
    · obtain ⟨margin, hmargin, rfl⟩ := List.mem_map.mp hspacing
      rw [takesSign_margin hmargin, utility?_neg_margin names hmargin]
      by_cases hauto : rest = "auto" <;> simp [hauto]
    · obtain ⟨hsign, hneg⟩ := utility?_neg_transform names htransform rest
      rw [hsign, if_pos rfl, hneg]
  · have hnone : utility? names ("-" ++ r) = none := by
      rw [Option.eq_none_iff_forall_ne_some]
      exact fun u hu => hfront (exists_signedFront hu)
    have hsign : takesSign r = false := by
      rw [takesSign, Bool.and_eq_false_iff]
      refine .inl (List.any_eq_false.mpr fun front hmem hstarts => ?_)
      obtain ⟨rest, hrest⟩ := Option.isSome_iff_exists.mp hstarts
      exact hfront ⟨front, hmem, rest, Text.after?_eq_some.mp hrest⟩
    rw [hnone, hsign]
    rfl

/-- **A negative class negates what the positive class does**: it knows the same properties for the
same elements, and each value is negated unless it is zero or joins the values of axes. -/
theorem positive_of_negative (h : utility? names ("-" ++ r) = some u) :
    ∃ p, utility? names r = some p ∧ u.child = p.child ∧
      List.Forall₂ Negates p.declarations u.declarations := by
  rw [utility?_neg] at h
  cases hsign : takesSign r with
  | false => simp [hsign] at h
  | true =>
    rw [hsign, if_pos rfl] at h
    obtain ⟨p, hp, rfl⟩ := Option.map_eq_some_iff.mp h
    exact ⟨p, hp, rfl, negates_negative p⟩

/-- Moving half back: the way is negated, and what joins the axes stays. -/
theorem positive_of_negative_half :
    utility? ⟨[], []⟩ "-translate-x-1/2" = some (ofList
        [("--tw-translate-x", "calc(calc(1/2 * 100%) * -1)"),
         ("translate", "var(--tw-translate-x, 0) var(--tw-translate-y, 0)")]) ∧
      ∃ p, utility? ⟨[], []⟩ "translate-x-1/2" = some p ∧ p.child = none ∧
        List.Forall₂ Negates p.declarations
          [("--tw-translate-x", "calc(calc(1/2 * 100%) * -1)"),
           ("translate", "var(--tw-translate-x, 0) var(--tw-translate-y, 0)")] := by
  have hnegative : utility? ⟨[], []⟩ ("-" ++ "translate-x-1/2") = some (ofList
      [("--tw-translate-x", "calc(calc(1/2 * 100%) * -1)"),
       ("translate", "var(--tw-translate-x, 0) var(--tw-translate-y, 0)")]) := by
    decide
  obtain ⟨p, hp, hchild, hdeclarations⟩ := positive_of_negative hnegative
  exact ⟨hnegative, p, hp, hchild.symm, hdeclarations⟩

end LivePreview.Style.Utility
