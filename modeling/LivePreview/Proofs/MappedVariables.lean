import LivePreview.Registry.Theme
/-!
# Variables that a theme's stylesheet maps

The stylesheet of a theme maps variables to tokens: the value of a token refers to a variable, and
the variable is declared for the light scheme, if at all. A mapping is made for each color and each
effect of the light scheme, so those variables are declared. Fonts and the radius are mapped also
where only the theme itself has them, and nothing declares them there: these references dangle, and
no others do (`mapped_variables_declared`). The value that the theme gives to such a variable stands
nowhere in the stylesheet, because the variables that are mapped have no tokens of their own.
-/
namespace LivePreview.Registry.ThemeVariables

/-! ## Mappings -/

/-- A token whose value refers to a variable. -/
structure Mapping where
  token : String
  front : String
  /-- The variable. -/
  name : String
  back : String
deriving DecidableEq

/-- How a mapping is declared. -/
def Mapping.declaration (m : Mapping) : String × String :=
  (m.token, m.front ++ "var(--" ++ m.name ++ ")" ++ m.back)

/-- The token of a color. -/
def colorMapping (name : String) : Mapping := ⟨"--color-" ++ name, "", name, ""⟩

/-- The token with the name of a variable. -/
def sameMapping (name : String) : Mapping := ⟨"--" ++ name, "", name, ""⟩

/-- The tokens of radii. -/
def radiusMappings : List Mapping :=
  [⟨"--radius-sm", "calc(", "radius", " - 4px)"⟩, ⟨"--radius-md", "calc(", "radius", " - 2px)"⟩,
   ⟨"--radius-lg", "", "radius", ""⟩, ⟨"--radius-xl", "calc(", "radius", " + 4px)"⟩,
   ⟨"--radius-2xl", "calc(", "radius", " + 8px)"⟩, ⟨"--radius-3xl", "calc(", "radius", " + 12px)"⟩,
   ⟨"--radius-4xl", "calc(", "radius", " + 16px)"⟩]

/-- The mappings that a stylesheet introduces. -/
def mappings (theme light : Variables) : List Mapping :=
  (light.filter fun v => colorNames.contains v.1).map (fun v => colorMapping v.1) ++
    (fontNames.filter fun f => has light f || has theme f).map sameMapping ++
    (if has light "radius" || has theme "radius" then radiusMappings else []) ++
    (light.filter fun v => isEffect v.1).map fun v => sameMapping v.1

/-- The variables of a theme that are tokens themselves, with their values. -/
def ownTokens (theme : Variables) : List (String × String) :=
  (theme.filter fun v => !isMapped v.1).map fun v => ("--" ++ v.1, valueText v.2)

variable {theme light : Variables}

/-- The tokens are the mappings and the theme's own ones. -/
theorem tokens_eq : tokens theme light =
    ((mappings theme light).map Mapping.declaration ++ ownTokens theme).foldl
      (fun acc t => Json.setMember t.1 t.2 acc) [] := by
  have hcolor : ∀ name, (colorMapping name).declaration =
      ("--color-" ++ name, "var(--" ++ name ++ ")") := by
    intro name
    simp [colorMapping, Mapping.declaration]
  have hsame : ∀ name, (sameMapping name).declaration = sameToken name := by
    intro name
    simp [sameMapping, sameToken, Mapping.declaration]
  have hradii : radiusMappings.map Mapping.declaration = radiusTokens := by decide
  simp only [tokens, mappings, ownTokens, List.map_append, List.map_map, Function.comp_def, hcolor,
    hsame, apply_ite (List.map Mapping.declaration), hradii, List.map_nil, List.append_assoc]

/-- What the block for the light scheme declares. -/
def lightDeclarations (light : Variables) : List (String × String) :=
  light.map fun v => ("--" ++ v.1, valueText v.2)

/-- A stylesheet has the block of the tokens and then the one for the light scheme. -/
theorem css_eq (v : ThemeVariables) (base : BaseRules) : ∃ rest, v.css base =
    header ++ block "@theme inline" (declarationLines (tokens (v.theme.getD []) (v.light.getD []))) ++
      block ":root" (declarationLines (lightDeclarations (v.light.getD []))) ++ rest := by
  refine ⟨block ".dark" (variableLines (v.dark.getD [])) ++ "@layer base \x7b\n" ++ baseRules ++
    String.join (base.map baseRuleText) ++ "\x7d\n", ?_⟩
  simp only [css, variableLines, lightDeclarations, String.append_assoc]

/-! ## Setting tokens one after the other -/

section Setting

variable {t d : String × String} {acc ds : List (String × String)}

theorem mem_setMember (h : t ∈ Json.setMember d.1 d.2 acc) : t = d ∨ t ∈ acc := by
  induction acc with
  | nil => exact .inl (List.mem_singleton.mp h)
  | cons a acc ih =>
    rw [Json.setMember] at h
    split at h
    · rename_i hkey
      rcases List.mem_cons.mp h with rfl | h
      · exact .inl (by rw [hkey])
      · exact .inr (List.mem_cons_of_mem a h)
    · rcases List.mem_cons.mp h with rfl | h
      · exact .inr List.mem_cons_self
      · exact (ih h).imp_right (List.mem_cons_of_mem a)

theorem mem_setMember_self : d ∈ Json.setMember d.1 d.2 acc := by
  induction acc with
  | nil => exact List.mem_cons_self
  | cons a acc ih =>
    rw [Json.setMember]
    split
    · rename_i hkey
      rw [hkey]
      exact List.mem_cons_self
    · exact List.mem_cons_of_mem a ih

/-- A token stays unless it is set again. -/
theorem mem_setMember_of_ne (h : t ∈ acc) (hne : t.1 ≠ d.1) : t ∈ Json.setMember d.1 d.2 acc := by
  induction acc with
  | nil => exact nomatch h
  | cons a acc ih =>
    rw [Json.setMember]
    rcases List.mem_cons.mp h with rfl | h
    · rw [if_neg hne]
      exact List.mem_cons_self
    · split
      · exact List.mem_cons_of_mem _ h
      · exact List.mem_cons_of_mem a (ih h)

/-- All tokens were set at some time. -/
theorem mem_foldl_setMember
    (h : t ∈ ds.foldl (fun acc t => Json.setMember t.1 t.2 acc) acc) : t ∈ acc ∨ t ∈ ds := by
  induction ds generalizing acc with
  | nil => exact .inl h
  | cons d ds ih =>
    rcases ih h with hacc | hds
    · rcases mem_setMember hacc with rfl | hacc
      · exact .inr List.mem_cons_self
      · exact .inl hacc
    · exact .inr (List.mem_cons_of_mem d hds)

/-- A token that is never set to anything else is there if it was set. -/
theorem mem_foldl_setMember_of_mem (hsame : ∀ d ∈ ds, d.1 = t.1 → d = t) (h : t ∈ acc ∨ t ∈ ds) :
    t ∈ ds.foldl (fun acc t => Json.setMember t.1 t.2 acc) acc := by
  induction ds generalizing acc with
  | nil => exact h.elim id fun h => nomatch h
  | cons d ds ih =>
    refine ih (fun e he => hsame e (List.mem_cons_of_mem d he)) ?_
    by_cases hkey : d.1 = t.1
    · obtain rfl := hsame d List.mem_cons_self hkey
      exact .inl mem_setMember_self
    · rcases h with hacc | hds
      · exact .inl (mem_setMember_of_ne hacc (Ne.symm hkey))
      · exact (List.mem_cons.mp hds).imp (fun heq => absurd (congrArg Prod.fst heq.symm) hkey) id

end Setting

/-! ## What is declared and what dangles -/

/-- Whether only the theme itself has a variable that is a font or the radius. -/
def Dangles (theme light : Variables) (name : String) : Prop :=
  name ∈ "radius" :: fontNames ∧ has theme name = true ∧ has light name = false

instance (theme light : Variables) (name : String) : Decidable (Dangles theme light name) :=
  inferInstanceAs (Decidable (_ ∧ _))

/-- Whether the block for the light scheme declares a variable. -/
def Declared (light : Variables) (name : String) : Prop :=
  ∃ d ∈ lightDeclarations light, d.1 = "--" ++ name

instance (light : Variables) (name : String) : Decidable (Declared light name) :=
  inferInstanceAs (Decidable (∃ d ∈ _, _))

theorem declared_iff {name : String} : Declared light name ↔ has light name = true := by
  rw [Declared, has, List.any_eq_true]
  constructor
  · rintro ⟨d, hd, hname⟩
    obtain ⟨v, hv, rfl⟩ := List.mem_map.mp hd
    exact ⟨v, hv, by simpa using hname⟩
  · rintro ⟨v, hv, hname⟩
    exact ⟨_, List.mem_map.mpr ⟨v, hv, rfl⟩, by rw [of_decide_eq_true hname]⟩

theorem has_of_mem {v : String × Json} {vs : Variables} (h : v ∈ vs) : has vs v.1 = true :=
  List.any_eq_true.mpr ⟨v, h, by simp⟩

/-- A variable that is mapped is one of the light scheme, or a font or the radius of the theme. -/
theorem has_of_mem_mappings {m : Mapping} (h : m ∈ mappings theme light) :
    has light m.name = true ∨ m.name ∈ "radius" :: fontNames ∧ has theme m.name = true := by
  have hradius : ∀ m ∈ radiusMappings, m.name = "radius" := by decide
  simp only [mappings, List.mem_append, List.mem_map, List.mem_filter] at h
  rcases h with ((⟨v, ⟨hv, -⟩, rfl⟩ | ⟨f, ⟨hf, hhas⟩, rfl⟩) | hm) | ⟨v, ⟨hv, -⟩, rfl⟩
  · exact .inl (has_of_mem hv)
  · exact (Bool.or_eq_true_iff.mp hhas).imp_right fun h => ⟨List.mem_cons_of_mem _ hf, h⟩
  · split at hm
    · rename_i hhas
      rw [hradius m hm]
      exact (Bool.or_eq_true_iff.mp hhas).imp_right fun h => ⟨List.mem_cons_self, h⟩
    · exact nomatch hm
  · exact .inl (has_of_mem hv)

/-- A reference is declared unless it dangles. -/
theorem declared_iff_of_mem_mappings {m : Mapping} (h : m ∈ mappings theme light) :
    Declared light m.name ↔ ¬ Dangles theme light m.name := by
  rw [declared_iff]
  constructor
  · intro hlight hdangles
    exact Bool.false_ne_true (hdangles.2.2.symm.trans hlight)
  · intro hdangles
    rcases has_of_mem_mappings h with hlight | ⟨hname, htheme⟩
    · exact hlight
    · cases hlight : has light m.name with
      | true => rfl
      | false => exact absurd ⟨hname, htheme, hlight⟩ hdangles

/-- The token with the name of a font or the radius is never set to anything but a reference to the
variable of that name, and that only for a font. -/
theorem eq_sameToken_of_mem {name : String} (hname : name ∈ "radius" :: fontNames)
    {d : String × String}
    (h : d ∈ (mappings theme light).map Mapping.declaration ++ ownTokens theme)
    (hd : d.1 = "--" ++ name) : d = sameToken name ∧ name ∈ fontNames := by
  have hcolor : ∀ name ∈ "radius" :: fontNames, Text.after? "color-" name = none := by decide
  have heffect : ∀ name ∈ "radius" :: fontNames, isEffect name = false := by decide
  have hmapped : ∀ name ∈ "radius" :: fontNames, isMapped name = true := by decide
  have hradii : ∀ m ∈ radiusMappings, ∀ name ∈ "radius" :: fontNames, m.token ≠ "--" ++ name := by
    decide
  have hinj : ∀ {a b : String}, "--" ++ a = "--" ++ b → a = b := fun h => by simpa using h
  have hsame : ∀ f, (sameMapping f).declaration = sameToken f := by
    simp [sameMapping, sameToken, Mapping.declaration]
  simp only [mappings, ownTokens, List.mem_append, List.mem_map, List.mem_filter] at h
  rcases h with ⟨m, ((⟨v, -, rfl⟩ | ⟨f, ⟨hf, -⟩, rfl⟩) | hm) | ⟨v, ⟨-, hv⟩, rfl⟩, rfl⟩ |
    ⟨v, ⟨-, hv⟩, rfl⟩
  · -- no color has the name of a font
    have hfront : "--color-" = "--" ++ "color-" := rfl
    rw [colorMapping, Mapping.declaration, hfront, String.append_assoc] at hd
    exact absurd (Text.after?_eq_some.mpr (hinj hd).symm) (by simp [hcolor name hname])
  · obtain rfl : f = name := hinj hd
    exact ⟨hsame f, hf⟩
  · split at hm
    · exact absurd hd (hradii m hm name hname)
    · exact nomatch hm
  · obtain rfl : v.1 = name := hinj hd
    exact absurd hv (by simp [heffect v.1 hname])
  · obtain rfl : v.1 = name := hinj hd
    exact absurd hv (by simp [hmapped v.1 hname])

/-- The token of a font that dangles refers to itself. -/
theorem sameToken_mem_tokens {f : String} (hf : f ∈ fontNames) (h : has theme f = true) :
    sameToken f ∈ tokens theme light := by
  rw [tokens_eq]
  refine mem_foldl_setMember_of_mem (fun d hd hkey => ?_) (.inr ?_)
  · exact (eq_sameToken_of_mem (List.mem_cons_of_mem _ hf) hd hkey).1
  · refine List.mem_append_left _ (List.mem_map.mpr ⟨sameMapping f, ?_, ?_⟩)
    · refine List.mem_append_left _ (List.mem_append_left _ (List.mem_append_right _ ?_))
      exact List.mem_map_of_mem (List.mem_filter.mpr ⟨hf, by simp [h]⟩)
    · simp [sameMapping, sameToken, Mapping.declaration]

/-- **The variables of a stylesheet.** A token has the value that the theme gives to it, or it
refers to a variable; that variable is declared for the light scheme, unless it is a font or the
radius and only the theme itself has it. In that case the stylesheet has no declaration of it, save
that a font refers to itself, so its value is lost. -/
theorem mapped_variables_declared (v : ThemeVariables) (base : BaseRules) :
    let theme := v.theme.getD []
    let light := v.light.getD []
    (∃ rest, v.css base =
      header ++ block "@theme inline" (declarationLines (tokens theme light)) ++
        block ":root" (declarationLines (lightDeclarations light)) ++ rest) ∧
    (∀ t ∈ tokens theme light, t ∈ ownTokens theme ∨
      ∃ m ∈ mappings theme light, t = m.declaration) ∧
    (∀ m ∈ mappings theme light, Declared light m.name ↔ ¬ Dangles theme light m.name) ∧
    ∀ name, Dangles theme light name →
      (name ∈ fontNames → sameToken name ∈ tokens theme light) ∧
      ∀ d ∈ tokens theme light ++ lightDeclarations light, d.1 = "--" ++ name →
        d = sameToken name ∧ name ∈ fontNames := by
  intro theme light
  refine ⟨css_eq v base, fun t ht => ?_, fun m => declared_iff_of_mem_mappings, fun name h => ?_⟩
  · rw [tokens_eq] at ht
    rcases mem_foldl_setMember ht with hnil | ht
    · exact nomatch hnil
    · rcases List.mem_append.mp ht with hmap | hown
      · obtain ⟨m, hm, rfl⟩ := List.mem_map.mp hmap
        exact .inr ⟨m, hm, rfl⟩
      · exact .inl hown
  · refine ⟨fun hfont => sameToken_mem_tokens hfont h.2.1, fun d hd hkey => ?_⟩
    rcases List.mem_append.mp hd with htoken | hlight
    · rw [tokens_eq] at htoken
      rcases mem_foldl_setMember htoken with hnil | hset
      · exact nomatch hnil
      · exact eq_sameToken_of_mem h.1 hset hkey
    · have hdeclared : Declared light name := ⟨d, hlight, hkey⟩
      exact absurd (h.2.2.symm.trans (declared_iff.mp hdeclared)) Bool.false_ne_true

/-- A font that only the theme itself has is mapped, and nothing declares it. -/
theorem dangling_font :
    ¬ ∀ v : ThemeVariables, ∀ m ∈ mappings (v.theme.getD []) (v.light.getD []),
      m.declaration ∈ tokens (v.theme.getD []) (v.light.getD []) →
        Declared (v.light.getD []) m.name := by
  intro h
  have hdeclared := h ⟨some [("font-sans", .str "Inter")], some [("background", .str "white")], none⟩
    (sameMapping "font-sans")
  exact absurd (hdeclared (by decide) (by decide)) (by decide)

end LivePreview.Registry.ThemeVariables
