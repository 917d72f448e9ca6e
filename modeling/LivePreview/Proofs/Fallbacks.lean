import LivePreview.Proofs.ImportGate
/-!
# Falling back

Packages that the import table does not resolve are imported from their fallback URLs. Replacing
them does nothing to a tree but to change its specifiers: two trees that were relabelled differ in
nothing else (`relabel_relabel`), and a tree whose specifiers stay stays itself (`relabel_eq_self`).
A fallback URL has a scheme, since the template has one and no part of it goes away
(`occurs_fallbackUrl`), so it is no package, and a second pass finds nothing to replace.
-/
namespace LivePreview

open Script Script.Specifiers

namespace Script.Specifiers

open Rebuild

variable {g h : String → String}

theorem relabelString_relabelString (e : Expr) :
    relabelString g (relabelString h e) = relabelString (fun s => g (h s)) e := by
  induction e using relabelString.induct with
  | case1 s => rfl
  | case2 s => rfl
  | case3 cs e ih => simp [relabelString, ih]
  | case4 e hs hb hc =>
    have hsame : ∀ g, relabelString g e = e := fun g => relabelString.eq_4 g e hs hb hc
    rw [hsame, hsame, hsame]

/-- A string that an import while running names is relabelled at the import, and not before. -/
theorem onExpr_relabelString (e : Expr) :
    (relabel g).onExpr (relabelString h e) = relabelString h ((relabel g).onExpr e) := by
  induction e using relabelString.induct with
  | case1 s => rfl
  | case2 s => rfl
  | case3 cs e ih => simp [relabelString, ih]
  | case4 e hs hb hc =>
    rw [relabelString.eq_4 h e hs hb hc, (plain_relabel g).expr_eq]
    cases e with
    | string s => exact absurd rfl (hs s)
    | brokenString s => exact absurd rfl (hb s)
    | commented cs e => exact absurd rfl (hc cs e)
    | importCall phase args => cases args <;> rfl
    | _ => rfl

theorem own_relabel_mapParts (n : Node) :
    ((relabel h).own n).mapParts (relabel g).maps =
      (relabel h).own (n.mapParts (relabel g).maps) := by
  cases n with
  | expr e =>
    cases e with
    | importCall phase args =>
      cases args with
      | nil => rfl
      | cons source options =>
        exact congrArg (fun e => Node.expr (.importCall phase (e :: _)))
          (onExpr_relabelString source)
    | _ => rfl
  | stmt s =>
    cases s with
    | exportNames names source attributes => cases source <;> rfl
    | _ => rfl
  | _ => rfl

theorem relabelString_eq_self {e : Expr} (he : ∀ s ∈ ofString e, g s = s) :
    relabelString g e = e := by
  induction e using relabelString.induct with
  | case1 s => simpa [relabelString, ofString] using he
  | case2 s => simpa [relabelString, ofString] using he
  | case3 cs e ih => simpa [relabelString] using ih he
  | case4 e hs hb hc => exact relabelString.eq_4 g e hs hb hc

theorem own_relabel_eq_self {n : Node} (hn : ∀ s ∈ own n, g s = s) : (relabel g).own n = n := by
  cases n with
  | expr e =>
    cases e with
    | importCall phase args =>
      cases args with
      | nil => rfl
      | cons source options =>
        exact congrArg (fun e => Node.expr (.importCall phase (e :: options)))
          (relabelString_eq_self hn)
    | _ => rfl
  | stmt s =>
    cases s with
    | importDecl | exportAll => simp_all [own, Rebuild.own, relabel, relabelLiteral]
    | exportNames names source attributes =>
      cases source <;> simp_all [own, Rebuild.own, relabel, relabelLiteral]
    | _ => rfl
  | _ => rfl

theorem own_relabel_relabel (n : Node) :
    (relabel g).own ((relabel h).own n) = (relabel fun s => g (h s)).own n := by
  have hkept (hnone : own n = []) :
      (relabel g).own ((relabel h).own n) = (relabel fun s => g (h s)).own n := by
    have hsame (f : String → String) : (relabel f).own n = n :=
      own_relabel_eq_self fun s hs => absurd hs (hnone ▸ List.not_mem_nil)
    rw [hsame, hsame, hsame]
  cases n with
  | expr e =>
    cases e with
    | importCall phase args =>
      cases args with
      | nil => exact hkept rfl
      | cons source options =>
        exact congrArg (fun e => Node.expr (.importCall phase (e :: options)))
          (relabelString_relabelString source)
    | _ => exact hkept rfl
  | stmt s =>
    cases s with
    | importDecl => rfl
    | exportAll => rfl
    | exportNames names source attributes => cases source <;> rfl
    | _ => exact hkept rfl
  | _ => exact hkept rfl

/-- Relabelling twice is relabelling once. -/
theorem relabel_relabel (items : Module) : (relabel g).onModule ((relabel h).onModule items) =
    (relabel fun s => g (h s)).onModule items := by
  have hnode := (plain_relabel g).node_node (plain_relabel h) (plain_relabel fun s => g (h s))
    own_relabel_mapParts own_relabel_relabel
  rw [(plain_relabel _).onModule_eq, (plain_relabel _).onModule_eq, (plain_relabel _).onModule_eq,
    List.map_map]
  exact List.map_congr_left fun s _ => Node.stmt.inj (hnode (.stmt s))

/-- A tree whose specifiers stay as they are stays as it is. -/
theorem relabel_node_eq_self {n : Node} (hn : ∀ s ∈ ofNode n, g s = s) :
    (relabel g).maps.node n = n := by
  induction n using Node.induction with
  | h n ih =>
    rw [ofNode_eq, List.forall_mem_append] at hn
    have hparts : ∀ p ∈ n.parts, (relabel g).maps.node p = p := fun p hp =>
      ih p hp fun s hs => hn.2 s (List.mem_flatMap.mpr ⟨p, hp, hs⟩)
    rw [(plain_relabel g).node_eq, Node.mapParts_eq_self hparts, own_relabel_eq_self hn.1]

theorem relabel_eq_self {items : Module} (hitems : ∀ s ∈ ofStmts items, g s = s) :
    (relabel g).onModule items = items := by
  rw [ofStmts_eq] at hitems
  rw [(plain_relabel g).onModule_eq]
  refine (List.map_congr_left fun s hs => ?_).trans (List.map_id' items)
  exact Node.stmt.inj (relabel_node_eq_self (n := .stmt s) fun t ht =>
    hitems t (List.mem_flatMap.mpr ⟨.stmt s, List.mem_map_of_mem hs, ht⟩))

/-- A module with all specifiers empty. -/
def blank (items : Module) : Module := (relabel fun _ => "").onModule items

variable {f : String → Option String}

/-- A module in which nothing is replaced stays as it is. -/
theorem replace_eq_self {items : Module} (h : (replace f items).2 = 0) :
    (replace f items).1 = items := by
  rw [replace_eq] at h ⊢
  refine relabel_eq_self fun s hs => ?_
  have hs := List.countP_eq_zero.mp h s hs
  rw [target, Option.not_isSome_iff_eq_none.mp hs]
  rfl

/-- What has been replaced is not replaced again. -/
theorem replace_replace (hf : ∀ s, f (target f s) = none) (items : Module) :
    replace f (replace f items).1 = ((replace f items).1, 0) := by
  have htarget : ∀ s, target f (target f s) = target f s := fun s => by
    rw [target, hf]
    rfl
  have hcount : replaced f (ofStmts (replace f items).1) = 0 := by
    rw [(ofStmts_replace f items).1, replaced, List.countP_eq_zero]
    intro t ht
    obtain ⟨s, -, rfl⟩ := List.mem_map.mp ht
    simp [hf]
  rw [replace_eq f (replace f items).1, hcount, replace_eq f items, relabel_relabel]
  simp only [htarget]

end Script.Specifiers

namespace ImportTable

variable {t : ImportTable} {specifier : String}

/-- A package that the table does not resolve. -/
def Unresolved (t : ImportTable) (specifier : String) : Prop :=
  isBarePackage specifier = true ∧ t.resolve? specifier = none

instance : Decidable (t.Unresolved specifier) := inferInstanceAs (Decidable (_ ∧ _))

theorem fallback?_eq (t : ImportTable) (specifier : String) : t.fallback? specifier =
    if t.Unresolved specifier then some (t.fallbackUrl specifier) else none := by
  by_cases h : t.Unresolved specifier
  · rw [if_pos h, fallback?, if_pos (by simp [h.1, h.2])]
  · rw [if_neg h, fallback?, if_neg (by simpa [Unresolved] using h)]

/-- A fallback URL has the scheme of the template. -/
theorem occurs_fallbackUrl (h : Text.occurs "://" t.fallbackTemplate = true) (specifier : String) :
    Text.occurs "://" (t.fallbackUrl specifier) = true :=
  Text.occurs_replace (by decide) (by simp) h

theorem not_unresolved_fallbackUrl (h : Text.occurs "://" t.fallbackTemplate = true)
    (specifier : String) : ¬ t.Unresolved (t.fallbackUrl specifier) := by
  simp [Unresolved, isBarePackage, occurs_fallbackUrl h]

theorem target_fallback? (t : ImportTable) (specifier : String) : target t.fallback? specifier =
    if t.Unresolved specifier then t.fallbackUrl specifier else specifier := by
  rw [target, fallback?_eq]
  split <;> rfl

theorem not_unresolved_target (h : Text.occurs "://" t.fallbackTemplate = true)
    (specifier : String) : ¬ t.Unresolved (target t.fallback? specifier) := by
  rw [target_fallback?]
  split
  · exact not_unresolved_fallbackUrl h specifier
  · assumption

end ImportTable

variable {table : ImportTable}

/-- What a module becomes, and the number of specifiers replaced in it. -/
structure FallsBack (table : ImportTable) (items : Module) (out : Module × Nat) : Prop where
  specifiers : ofStmts out.1 = (ofStmts items).map fun s =>
    if table.Unresolved s then table.fallbackUrl s else s
  rest : blank out.1 = blank items
  count : out.2 = (ofStmts items).countP fun s => table.Unresolved s
  unchanged : out.2 = 0 → out.1 = items
  complete : ∀ s ∈ ofStmts out.1, ¬ table.Unresolved s
  again : replace table.fallback? out.1 = (out.1, 0)

theorem fallsBack (htemplate : Text.occurs "://" table.fallbackTemplate = true) (items : Module) :
    FallsBack table items (replace table.fallback? items) where
  specifiers := by
    rw [(ofStmts_replace table.fallback? items).1]
    exact List.map_congr_left fun s _ => ImportTable.target_fallback? table s
  rest := by
    rw [replace_eq, blank, relabel_relabel]
    rfl
  count := by
    rw [(ofStmts_replace table.fallback? items).2, replaced]
    refine List.countP_congr fun s _ => ?_
    rw [ImportTable.fallback?_eq]
    split <;> simp_all
  unchanged := replace_eq_self
  complete := by
    intro s hs
    rw [(ofStmts_replace table.fallback? items).1] at hs
    obtain ⟨s, -, rfl⟩ := List.mem_map.mp hs
    exact ImportTable.not_unresolved_target htemplate s
  again := by
    refine replace_replace (fun s => ?_) items
    rw [ImportTable.fallback?_eq, if_neg (ImportTable.not_unresolved_target htemplate s)]

/-! ## Texts -/

/-- What is printed is read with the same specifiers, if it is read at all. -/
def ReadsBack (items : Module) : Prop :=
  ∀ source, Source.parse false (printModule items).toList = .ok source →
    ofStmts source.items = ofStmts items

/-- What the text of a plain module becomes. A text in which nothing is replaced stays as it is, and
any other one becomes the text of another tree. -/
structure TextFallsBack (table : ImportTable) (code : String) : Prop where
  kept : (∀ source, Source.parse false code.toList = .ok source →
    (replace table.fallback? source.items).2 = 0) → table.applyFallbacks code = code
  changed : ∀ source, Source.parse false code.toList = .ok source →
    (replace table.fallback? source.items).2 ≠ 0 →
      table.applyFallbacks code = printModule (replace table.fallback? source.items).1 ∧
        (replace table.fallback? source.items).1 ≠ source.items
  readBack : (∀ source, Source.parse false code.toList = .ok source →
      ReadsBack (replace table.fallback? source.items).1) →
    (table.applyFallbacks code = code ↔ ∀ source, Source.parse false code.toList = .ok source →
      (replace table.fallback? source.items).2 = 0) ∧
    table.applyFallbacks (table.applyFallbacks code) = table.applyFallbacks code

section
variable {code : String}

theorem applyFallbacks_error {d : Diagnostic} (h : Source.parse false code.toList = .error d) :
    table.applyFallbacks code = code := by
  simp [ImportTable.applyFallbacks, h]

theorem applyFallbacks_ok {source : Source} (h : Source.parse false code.toList = .ok source) :
    table.applyFallbacks code =
      if (replace table.fallback? source.items).2 = 0 then code
      else printModule (replace table.fallback? source.items).1 := by
  simp only [ImportTable.applyFallbacks, h]
  split
  · rename_i hout
    rw [hout]
    rfl
  · rename_i hnonzero hout
    rw [hout]
    exact (if_neg hnonzero).symm

/-- What a text becomes in which something is replaced, from its characters. -/
theorem applyFallbacks_of_lines {chars : List Char} {text : String} {n : Nat}
    (hcode : code.toList = chars)
    (h : ((Source.parse false chars).toOption.map fun source =>
      (replace table.fallback? source.items).map Printer.lines id) = some (text, n + 1))
    (hend : text.toList.getLast? ≠ some ' ') :
    table.applyFallbacks code = text ∧ ∀ source, Source.parse false code.toList = .ok source →
      printModule (replace table.fallback? source.items).1 = text := by
  subst hcode
  cases hparse : Source.parse false code.toList with
  | error d => simp [hparse, Except.toOption] at h
  | ok source =>
    simp only [hparse, Except.toOption, Option.map_some, Option.some.injEq, Prod.map,
      Prod.mk.injEq, id_eq] at h
    have hprint := printModule_of_lines h.1 hend
    refine ⟨?_, fun _ hsource => Except.ok.inj hsource ▸ hprint⟩
    rw [applyFallbacks_ok hparse, if_neg (by omega), hprint]

/-- A text in which nothing is replaced stays as it is. -/
theorem applyFallbacks_eq_self (h : ∀ source, Source.parse false code.toList = .ok source →
    (replace table.fallback? source.items).2 = 0) : table.applyFallbacks code = code := by
  cases hparse : Source.parse false code.toList with
  | error d => exact applyFallbacks_error hparse
  | ok source => rw [applyFallbacks_ok hparse, if_pos (h source hparse)]

/-- Nothing is replaced among specifiers that the table resolves or that name no package. -/
theorem replace_eq_zero (htemplate : Text.occurs "://" table.fallbackTemplate = true)
    {items : Module} (h : ∀ s ∈ ofStmts items, ¬ table.Unresolved s) :
    (replace table.fallback? items).2 = 0 := by
  rw [(fallsBack htemplate items).count, List.countP_eq_zero]
  simpa using h

theorem ofStmts_replace_ne (htemplate : Text.occurs "://" table.fallbackTemplate = true)
    {items : Module} (h : (replace table.fallback? items).2 ≠ 0) :
    ofStmts (replace table.fallback? items).1 ≠ ofStmts items := fun heq =>
  h (replace_eq_zero htemplate (heq ▸ (fallsBack htemplate items).complete))

theorem applyFallbacks_printed (htemplate : Text.occurs "://" table.fallbackTemplate = true)
    {items : Module} (h : ReadsBack (replace table.fallback? items).1) :
    table.applyFallbacks (printModule (replace table.fallback? items).1) =
      printModule (replace table.fallback? items).1 := by
  refine applyFallbacks_eq_self fun source hparse => replace_eq_zero htemplate ?_
  rw [h source hparse]
  exact (fallsBack htemplate items).complete

theorem textFallsBack (htemplate : Text.occurs "://" table.fallbackTemplate = true)
    (code : String) : TextFallsBack table code where
  kept := applyFallbacks_eq_self
  changed source hparse hcount := by
    refine ⟨by rw [applyFallbacks_ok hparse, if_neg hcount], fun heq => ?_⟩
    exact ofStmts_replace_ne htemplate hcount (congrArg ofStmts heq)
  readBack hread := by
    refine ⟨⟨fun hsame source hparse => ?_, applyFallbacks_eq_self⟩, ?_⟩
    · refine Classical.byContradiction fun hcount => ?_
      rw [applyFallbacks_ok hparse, if_neg hcount] at hsame
      exact ofStmts_replace_ne htemplate hcount
        (hread source hparse source (hsame.symm ▸ hparse)).symm
    · cases hparse : Source.parse false code.toList with
      | error d => rw [applyFallbacks_error hparse, applyFallbacks_error hparse]
      | ok source =>
        rw [applyFallbacks_ok hparse]
        split
        · rename_i hcount
          rw [applyFallbacks_ok hparse, if_pos hcount]
        · exact applyFallbacks_printed htemplate (hread source hparse)

end

/-- **Falling back is exact, complete and idempotent.** For a table whose template has a scheme, a
specifier gives way to its fallback URL just where it is a package that the table does not resolve;
nothing else changes, and the number says how often, so that nothing changes at all if it is zero.
Behind that none of these packages is left, not in the code of a source either, and nothing is
replaced again. A text that is no module, or in which nothing is replaced, stays as it is; any other
one becomes the text of another tree. If that text is read back with its specifiers, it is another
text, and it stays as it is. -/
theorem fallbacks_exact_complete_idempotent
    (htemplate : Text.occurs "://" table.fallbackTemplate = true) :
    (∀ items, FallsBack table items (replace table.fallback? items)) ∧
      (∀ code, TextFallsBack table code) ∧
      ∀ limit chars code, compileSource table limit chars = .ok code →
        ∃ pointed, code = LoopGuard.prelude ++ printModule pointed ∧
          ∀ s ∈ ofStmts pointed, ¬ table.Unresolved s := by
  refine ⟨fallsBack htemplate, textFallsBack htemplate, fun limit chars code h => ?_⟩
  obtain ⟨-, items, pointed, -, -, hcode, hpointed⟩ := compileSource_eq_ok h
  refine ⟨pointed, hcode, ?_⟩
  rw [hpointed, ← (ofStmts_replace table.fallback? items).1]
  exact (fallsBack htemplate items).complete

/-- A package in front of a dynamic import of another one, in a table that resolves the second. -/
theorem fallbacks_of_nested_imports :
    let table := (ImportTable.empty "https://esm.sh").packageWithSubpaths "react" "19.1.0"
    let code := "import pad from \"left-pad\";\nimport(\"react\").then(() => import(\"zod\"));\n"
    Text.occurs "://" table.fallbackTemplate = true ∧
      table.applyFallbacks code =
        "import pad from \"https://esm.sh/left-pad\";\n" ++
          "import(\"react\").then(() => import(\"https://esm.sh/zod\"));\n" ∧
      table.applyFallbacks code ≠ code ∧
      table.applyFallbacks (table.applyFallbacks code) = table.applyFallbacks code := by
  intro table code
  let text := "import pad from \"https://esm.sh/left-pad\";\n" ++
    "import(\"react\").then(() => import(\"https://esm.sh/zod\"));\n"
  have htemplate : Text.occurs "://" table.fallbackTemplate = true := by decide +kernel
  obtain ⟨chars, hcode, hlines, hbefore⟩ : ∃ chars, code.toList = chars ∧
      ((Source.parse false chars).toOption.map fun source =>
        (replace table.fallback? source.items).map Printer.lines id) = some (text, 2) ∧
      ((Source.parse false chars).toOption.map fun source => ofStmts source.items) =
        some ["left-pad", "react", "zod"] :=
    ⟨_, String.toList_ofList, by decide +kernel, by decide +kernel⟩
  have hend : text.toList.getLast? = some '\n' := getLast?_toList_append rfl
  obtain ⟨happly, hprint⟩ := applyFallbacks_of_lines hcode hlines (by rw [hend]; decide)
  have hread : ∀ source, Source.parse false code.toList = .ok source →
      ReadsBack (replace table.fallback? source.items).1 := by
    intro source hparse again hprinted
    have hagain : ((Source.parse false text.toList).toOption.map fun again =>
        ofStmts again.items) =
          some ["https://esm.sh/left-pad", "react", "https://esm.sh/zod"] := by
      simp only [text]
      rw [String.toList_append, String.toList_ofList, String.toList_ofList]
      decide +kernel
    rw [← hcode, hparse] at hbefore
    rw [← hprint source hparse, hprinted] at hagain
    simp only [Except.toOption, Option.map_some, Option.some.injEq] at hbefore hagain
    rw [hagain, (ofStmts_replace _ _).1, hbefore]
    decide +kernel
  obtain ⟨-, htext, -⟩ := fallbacks_exact_complete_idempotent htemplate
  obtain ⟨-, hagain⟩ := (htext code).readBack hread
  exact ⟨htemplate, happly, by rw [happly]; decide, hagain⟩

end LivePreview
