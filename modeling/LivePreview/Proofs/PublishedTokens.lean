import LivePreview.Proofs.ClassFronts
import LivePreview.Style.Compiler
/-!
# The tokens that classes use

A class may name a color or a radius of the theme, and its declarations refer to the token of that
name then. The names that classes may use are cut from the tokens of the theme, and the same tokens
are declared in front of the utilities, so no reference of this kind dangles
(`used_tokens_published`).

What comes from the theme shows in a comparison with a theme without tokens: a class is read alike
in both, or all of its values refer to one token (`utility?_agrees`). The families that do not know
the theme agree anyway, and the others look a name up in one place each.
-/
namespace LivePreview.Style

/-! ## Two readings -/

/-- Two readings are the same, or the first one has a property. -/
def AgreeUnless {α : Type} (P : α → Prop) (x y : Option α) : Prop :=
  x = y ∨ ∃ a, x = some a ∧ P a

namespace AgreeUnless

variable {α β ι : Type} {P : α → Prop} {Q : β → Prop} {x y : Option α}

theorem map {f : α → β} (h : AgreeUnless P x y) (hf : ∀ a, P a → Q (f a)) :
    AgreeUnless Q (x.map f) (y.map f) := by
  rcases h with rfl | ⟨a, rfl, ha⟩
  · exact .inl rfl
  · exact .inr ⟨f a, rfl, hf a ha⟩

/-- What is read first is read alike. -/
theorem bind {f g : β → Option α} (o : Option β) (h : ∀ b, AgreeUnless P (f b) (g b)) :
    AgreeUnless P (o.bind f) (o.bind g) := by
  cases o with
  | none => exact .inl rfl
  | some b => exact h b

theorem findSome? {l : List ι} {f g : ι → Option α} (h : ∀ i, AgreeUnless P (f i) (g i)) :
    AgreeUnless P (l.findSome? f) (l.findSome? g) := by
  induction l with
  | nil => exact .inl rfl
  | cons i l ih =>
    rw [List.findSome?_cons, List.findSome?_cons]
    rcases h i with heq | ⟨a, ha, hP⟩
    · rw [heq]
      cases g i with
      | none => exact ih
      | some b => exact .inl rfl
    · rw [ha]
      exact .inr ⟨a, rfl, hP⟩

end AgreeUnless

/-! ## Values -/

namespace Value

/-- The names of a theme without tokens. -/
def Names.none : Names := ⟨[], []⟩

/-- The tokens to which names belong. -/
def Names.Publish (names : Names) (token : String) : Prop :=
  (∃ name ∈ names.colors, token = "--color-" ++ name) ∨
    ∃ name ∈ names.radii, token = "--radius-" ++ name

/-- A color with an opacity. -/
def mixed (color : String) (percent : Nat) : String :=
  "color-mix(in oklab, " ++ color ++ " " ++ Text.ofNat percent ++ "%, transparent)"

/-- A value that refers to a token: a color, a color with an opacity, or a radius. -/
inductive RefersTo (published : String → Prop) : String → Prop where
  | color {name : String} (h : published ("--color-" ++ name)) :
      RefersTo published ("var(--color-" ++ name ++ ")")
  | mixed {name : String} {percent : Nat} (h : published ("--color-" ++ name))
      (hpercent : percent ≤ 100) :
      RefersTo published (mixed ("var(--color-" ++ name ++ ")") percent)
  | radius {name : String} (h : published ("--radius-" ++ name)) :
      RefersTo published ("var(--radius-" ++ name ++ ")")

variable {published published' : String → Prop} {names : Names} {s v base a : String}

theorem RefersTo.mono (h : RefersTo published v)
    (hp : ∀ token, published token → published' token) : RefersTo published' v := by
  cases h with
  | color h => exact .color (hp _ h)
  | mixed h hpercent => exact .mixed (hp _ h) hpercent
  | radius h => exact .radius (hp _ h)

theorem plainColor?_agrees (names : Names) (s : String) :
    AgreeUnless (fun v => s ∈ names.colors ∧ v = "var(--color-" ++ s ++ ")")
      (plainColor? names s) (plainColor? .none s) := by
  unfold plainColor?
  cases arbitrary? s with
  | some v => exact .inl rfl
  | none =>
    cases Palette.color? s with
    | some v => exact .inl rfl
    | none =>
      by_cases hname : names.colors.contains s = true
      · exact .inr ⟨_, if_pos hname, List.contains_iff_mem.mp hname, rfl⟩
      · exact .inl (if_neg hname)

/-- An opacity is at most a hundred percent. -/
theorem mixed_of_color? (hsplit : splitOpacity s = (base, some a)) (h : color? names s = some v) :
    ∃ color percent, percent ≤ 100 ∧ v = mixed color percent := by
  rw [color?, hsplit] at h
  obtain ⟨color, -, h⟩ := Option.bind_eq_some_iff.mp h
  obtain ⟨percent, -, h⟩ := Option.bind_eq_some_iff.mp h
  split at h
  · cases h
  · rename_i hpercent
    exact ⟨color, percent, Nat.le_of_not_lt hpercent, (Option.some.inj h).symm⟩

theorem color?_agrees (names : Names) (s : String) :
    AgreeUnless (RefersTo names.Publish) (color? names s) (color? .none s) := by
  unfold color?
  rcases splitOpacity s with ⟨base, opacity⟩
  dsimp only
  rcases plainColor?_agrees names base with heq | ⟨color, hcolor, hname, rfl⟩
  · exact .inl (by rw [heq])
  · have hpublished : names.Publish ("--color-" ++ base) := .inl ⟨base, hname, rfl⟩
    rw [hcolor]
    cases opacity with
    | none => exact .inr ⟨_, rfl, .color hpublished⟩
    | some a =>
      simp only [Option.bind_eq_bind, Option.bind_some]
      -- the opacity is read alike in both themes
      cases Text.word? a with
      | none => exact .inl (by cases plainColor? .none base <;> rfl)
      | some percent =>
        by_cases hlarge : 100 < percent
        · refine .inl ?_
          cases plainColor? .none base with
          | none => exact if_pos hlarge
          | some color => exact (if_pos hlarge).trans (if_pos hlarge).symm
        · exact .inr ⟨_, if_neg hlarge, .mixed hpublished (Nat.le_of_not_lt hlarge)⟩

end Value

/-! ## Families -/

namespace Utility

open Value

/-- A utility all of whose values refer to one token. -/
def Refers (published : String → Prop) (u : Utility) : Prop :=
  ∃ properties value, RefersTo published value ∧ u = same properties value

variable {names : Names}

theorem refers_one {published : String → Prop} (property : String) {v : String}
    (h : RefersTo published v) : (one property v).Refers published :=
  ⟨[property], v, h, rfl⟩

theorem color?_map_agrees (names : Names) (property s : String) :
    AgreeUnless (Refers names.Publish) ((Value.color? names s).map (one property))
      ((Value.color? .none s).map (one property)) :=
  (Value.color?_agrees names s).map fun _ => refers_one property

theorem radiusValue?_agrees (names : Names) (s : String) :
    AgreeUnless (RefersTo names.Publish) (radiusValue? names s) (radiusValue? .none s) := by
  unfold radiusValue?
  cases arbitrary? s with
  | some v => exact .inl rfl
  | none =>
    by_cases hname : names.radii.contains s = true
    · exact .inr ⟨_, if_pos hname, .radius (.inr ⟨s, List.contains_iff_mem.mp hname, rfl⟩)⟩
    · exact .inl (if_neg hname)

theorem color?_agrees (names : Names) (c : String) :
    AgreeUnless (Refers names.Publish) (color? names c) (color? .none c) :=
  .bind _ fun p => color?_map_agrees names p.1 p.2

theorem border?_agrees (names : Names) (c : String) :
    AgreeUnless (Refers names.Publish) (border? names c) (border? .none c) := by
  refine .bind _ fun rest => ?_
  split
  · exact .inl rfl
  · dsimp only
    split
    · exact .inl rfl
    · split
      · exact .inl rfl
      · exact color?_map_agrees names "border-color" _

theorem radius?_agrees (names : Names) (c : String) :
    AgreeUnless (Refers names.Publish) (radius? names c) (radius? .none c) := by
  refine .bind _ fun rest => ?_
  rcases splitSide corners? rest with ⟨corners, value⟩
  dsimp only
  rcases radiusValue?_agrees names value with heq | ⟨v, hv, hrefers⟩
  · exact .inl (by rw [heq])
  · exact .inr ⟨_, by rw [hv]; rfl, _, v, hrefers, rfl⟩

theorem ring?_agrees (names : Names) (c : String) :
    AgreeUnless (Refers names.Publish) (ring? names c) (ring? .none c) := by
  refine .bind _ fun rest => ?_
  dsimp only
  split
  · exact .inl rfl
  · exact .bind _ fun value => color?_map_agrees names "--tw-ring-color" value

theorem outline?_agrees (names : Names) (c : String) :
    AgreeUnless (Refers names.Publish) (outline? names c) (outline? .none c) := by
  refine .bind _ fun rest => ?_
  split
  · exact .inl rfl
  · refine .bind _ fun value => ?_
    split
    · exact .inl rfl
    · split
      · exact .inl rfl
      · exact color?_map_agrees names "outline-color" value

theorem drawing?_agrees (names : Names) (c : String) :
    AgreeUnless (Refers names.Publish) (drawing? names c) (drawing? .none c) := by
  unfold drawing?
  split
  · exact color?_map_agrees names "fill" _
  · split
    · split
      · exact .inl rfl
      · exact color?_map_agrees names "stroke" _
    · exact .inl rfl

theorem read_agrees (names : Names) (family : Family) (c : String) :
    AgreeUnless (Refers names.Publish) (family.read names c) (family.read .none c) := by
  cases family with
  | color => exact color?_agrees names c
  | border => exact border?_agrees names c
  | radius => exact radius?_agrees names c
  | ring => exact ring?_agrees names c
  | outline => exact outline?_agrees names c
  | drawing => exact drawing?_agrees names c
  | _ => exact .inl rfl

theorem utility?_agrees (names : Names) (c : String) :
    AgreeUnless (Refers names.Publish) (utility? names c) (utility? .none c) := by
  rw [utility?, utility?, families_eq_map, families_eq_map, List.findSome?_map,
    List.findSome?_map]
  exact .findSome? fun family => read_agrees names family c

end Utility

/-! ## Tokens -/

/-- Whether a preamble declares a token in the block for the root that it opens. -/
def Declares (preamble token : String) : Prop :=
  ∃ front declarations rest,
    preamble = front ++ layerText "theme" (blockText ":root, :host" declarations) ++ rest ∧
      token ∈ declarations.map Prod.fst

namespace Theme

variable {t : Theme} {family name token : String}

theorem mem_tokenNames : name ∈ t.tokenNames family ↔ family ++ name ∈ t.tokens.map Prod.fst := by
  rw [tokenNames, Text.mem_ordered, List.mem_filterMap, List.mem_map]
  constructor
  · rintro ⟨d, hd, hafter⟩
    exact ⟨d, hd, Text.after?_eq_some.mp hafter⟩
  · rintro ⟨d, hd, heq⟩
    exact ⟨d, hd, Text.after?_eq_some.mpr heq⟩

/-- Names belong to tokens of the theme. -/
theorem mem_tokens_of_publish (h : t.names.Publish token) : token ∈ t.tokens.map Prod.fst := by
  rcases h with ⟨name, hname, rfl⟩ | ⟨name, hname, rfl⟩
  · exact mem_tokenNames.mp hname
  · exact mem_tokenNames.mp hname

/-- The preamble declares all tokens. -/
theorem declares_of_preamble {sheets : Sheets} {preamble : String}
    (h : t.preamble sheets = .ok preamble) (htoken : token ∈ t.tokens.map Prod.fst) :
    Declares preamble token := by
  rw [Theme.preamble] at h
  cases himported : importedText sheets t.imports with
  | error e => simp [himported, Except.map] at h
  | ok imported =>
    rw [himported] at h
    obtain rfl := Except.ok.inj h
    refine ⟨imported, t.tokens, t.baseText, ?_, htoken⟩
    have hne : t.tokens.isEmpty = false := by
      cases htokens : t.tokens with
      | nil => simp [htokens] at htoken
      | cons d tokens => rfl
    simp [tokenText, hne]

end Theme

namespace Compiler

variable {t : Theme} {sheets : Sheets} {c : Compiler} {candidate : String} {r : Rule}

/-- The names of a compiler belong to tokens that its preamble declares. -/
theorem declares_of_publish {token : String} (hc : ofTheme t sheets = .ok c)
    (htoken : c.names.Publish token) : Declares c.preamble token := by
  rw [ofTheme] at hc
  cases hpreamble : t.preamble sheets with
  | error e => simp [hpreamble, Except.map] at hc
  | ok preamble =>
    rw [hpreamble] at hc
    obtain rfl := Except.ok.inj hc
    exact Theme.declares_of_preamble hpreamble (Theme.mem_tokens_of_publish htoken)

/-- Importance is a mark behind each value. -/
theorem exists_mark_of_mem {important : Bool} {declarations : List Declaration} {d : Declaration}
    (hd : d ∈ markImportant important declarations) :
    ∃ e ∈ declarations, ∃ mark ∈ ["", " !important"], d = (e.1, e.2 ++ mark) := by
  cases important with
  | false => exact ⟨d, hd, "", by simp, by simp⟩
  | true =>
    obtain ⟨e, he, rfl⟩ := List.mem_map.mp hd
    exact ⟨e, he, " !important", by simp, rfl⟩

/-- A value that is read otherwise than without a theme refers to a token that is declared. -/
theorem refersTo_of_agrees (f : Value.Names → Option String) {v : String}
    (hc : ofTheme t sheets = .ok c)
    (h : AgreeUnless (Value.RefersTo c.names.Publish) (f c.names) (f .none))
    (hv : f c.names = some v) : f .none = some v ∨ Value.RefersTo (Declares c.preamble) v := by
  rcases h with heq | ⟨v', hv', hrefers⟩
  · exact .inl (heq ▸ hv)
  · obtain rfl : v' = v := Option.some.inj (hv'.symm.trans hv)
    exact .inr (hrefers.mono fun token => declares_of_publish hc)

/-- A candidate has the rule that it has without a theme, or all of its values refer to one token
that is declared. -/
theorem resolve?_cases (hc : ofTheme t sheets = .ok c) (hr : c.resolve? candidate = some r) :
    ({ c with names := .none } : Compiler).resolve? candidate = some r ∨
      ∃ value, Value.RefersTo (Declares c.preamble) value ∧
        ∀ d ∈ r.declarations, ∃ mark ∈ ["", " !important"], d.2 = value ++ mark := by
  obtain ⟨parsed, hparsed, hr⟩ := Option.bind_eq_some_iff.mp hr
  obtain ⟨u, hu, hr⟩ := Option.bind_eq_some_iff.mp hr
  rcases Utility.utility?_agrees c.names parsed.base with heq | ⟨u', hu', hrefers⟩
  · -- variants and importance do not know the theme
    left
    rw [hu] at heq
    simp only [resolve?, hparsed, ← heq, Option.bind_eq_bind, Option.bind_some]
    exact hr
  · right
    obtain rfl : u' = u := Option.some.inj (hu'.symm.trans hu)
    obtain ⟨properties, value, hvalue, rfl⟩ := hrefers
    obtain ⟨scope, -, hr⟩ := Option.bind_eq_some_iff.mp hr
    obtain rfl := Option.some.inj hr
    refine ⟨value, hvalue.mono fun token => declares_of_publish hc, ?_⟩
    intro d hd
    obtain ⟨e, he, mark, hmark, rfl⟩ := exists_mark_of_mem hd
    obtain ⟨property, -, rfl⟩ := List.mem_map.mp he
    exact ⟨mark, hmark, rfl⟩

/-- **Every token that a class uses is published.** Each candidate has the rule that it has in a
theme without tokens, or all of its values, but for the mark of importance, refer to one token that
the preamble declares for the root: as a color, a color with an opacity of at most a hundred percent
or a radius. Each color and each radius by itself is of one of the two kinds, too, and no color has
a larger opacity. -/
theorem used_tokens_published (hc : ofTheme t sheets = .ok c)
    (hr : c.resolve? candidate = some r) :
    (({ c with names := .none } : Compiler).resolve? candidate = some r ∨
      ∃ value, Value.RefersTo (Declares c.preamble) value ∧
        ∀ d ∈ r.declarations, ∃ mark ∈ ["", " !important"], d.2 = value ++ mark) ∧
      (∀ s v, Value.color? c.names s = some v →
        Value.color? .none s = some v ∨ Value.RefersTo (Declares c.preamble) v) ∧
      (∀ s v, Utility.radiusValue? c.names s = some v →
        Utility.radiusValue? .none s = some v ∨ Value.RefersTo (Declares c.preamble) v) ∧
      ∀ s v base opacity, Value.splitOpacity s = (base, some opacity) →
        Value.color? c.names s = some v →
          ∃ color percent, percent ≤ 100 ∧ v = Value.mixed color percent := by
  refine ⟨resolve?_cases hc hr, ?_, ?_, ?_⟩
  · intro s v hv
    exact refersTo_of_agrees (Value.color? · s) hc (Value.color?_agrees c.names s) hv
  · intro s v hv
    have hagrees := Utility.radiusValue?_agrees c.names s
    exact refersTo_of_agrees (Utility.radiusValue? · s) hc hagrees hv
  · intro s v base opacity hsplit hv
    exact Value.mixed_of_color? hsplit hv

/-- A color of a small theme, under variants and with an opacity, that is no color without the
theme. -/
theorem used_tokens_published_of_brand :
    let t : Theme := ⟨[], "&:is(.dark *)", [("--color-brand", "red"), ("--radius-lg", "1rem")], []⟩
    let candidate := "md:hover:!bg-brand/50"
    ∃ c r, ofTheme t [] = .ok c ∧ c.resolve? candidate = some r ∧
      ({ c with names := .none } : Compiler).resolve? candidate = none ∧
      ∃ value, Value.RefersTo (Declares c.preamble) value ∧
        ∀ d ∈ r.declarations, ∃ mark ∈ ["", " !important"], d.2 = value ++ mark := by
  intro t candidate
  have hc : ofTheme t [] = .ok ⟨"" ++ t.tokenText ++ t.baseText, t.names, t.darkVariant⟩ := rfl
  generalize hcompiler :
    (⟨"" ++ t.tokenText ++ t.baseText, t.names, t.darkVariant⟩ : Compiler) = c at hc
  have hnone : ({ c with names := .none } : Compiler).resolve? candidate = none := by
    subst hcompiler
    decide +kernel
  cases hr : c.resolve? candidate with
  | none =>
    have hsome : (c.resolve? candidate).isSome = true := by
      subst hcompiler
      decide +kernel
    simp [hr] at hsome
  | some r =>
    have hrefers := (used_tokens_published hc hr).1.resolve_left (by simp [hnone])
    exact ⟨c, r, hc, hr, hnone, hrefers⟩

end Compiler
end LivePreview.Style
