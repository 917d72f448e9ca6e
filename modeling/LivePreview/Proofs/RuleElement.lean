import LivePreview.Proofs.TidyCandidates
import LivePreview.Proofs.VariantStacks
/-!
# The element of a rule

The selector of a rule is built around the class of its candidate. Every variant keeps the selector
that is there in one piece: it adds text in front or behind, or it puts the selector in the place of
each `&` of a text that has one. So the class is still there, in one piece, behind every stack of
variants (`Scope.unbroken_ofStack`), whatever characters it is made of, and the rule applies to the
elements that carry it (`Compiler.rule_of_element`).

The conditions on the screen are those of the widths in the stack, and the declarations are those of
the class without its variants.
-/
namespace LivePreview.Style

/-- Whether a piece stands in a text as it is. -/
def Unbroken (piece text : String) : Prop := ∃ front back, text = front ++ piece ++ back

namespace Unbroken

variable {piece text : String}

theorem refl (text : String) : Unbroken text text := ⟨"", "", by simp⟩

theorem append (h : Unbroken piece text) (more : String) : Unbroken piece (text ++ more) := by
  obtain ⟨front, back, rfl⟩ := h
  exact ⟨front, back ++ more, by simp only [String.append_assoc]⟩

theorem prepend (h : Unbroken piece text) (more : String) : Unbroken piece (more ++ text) := by
  obtain ⟨front, back, rfl⟩ := h
  exact ⟨more ++ front, back, by simp only [String.append_assoc]⟩

theorem trans {outer : String} (h : Unbroken piece text) (houter : Unbroken text outer) :
    Unbroken piece outer := by
  obtain ⟨front, back, rfl⟩ := houter
  exact (h.prepend front).append back

/-- A text that is put in the place of a character stands there as it is. -/
theorem replace {c : Char} (h : c ∈ text.toList) :
    Unbroken piece (Text.replace (String.singleton c) piece text) := by
  obtain ⟨front, back, htext⟩ := List.append_of_mem h
  refine ⟨Text.replace (String.singleton c) piece (String.ofList front),
    Text.replace (String.singleton c) piece (String.ofList back), String.toList_inj.mp ?_⟩
  simp [Text.replace, Text.replaceChars_singleton, htext]

end Unbroken

/-- Blanks in the place of underscores leave the other characters there. -/
theorem mem_replace_underscores {c : Char} {s : String} (hc : c ≠ '_') (h : c ∈ s.toList) :
    c ∈ (Text.replace "_" " " s).toList := by
  rw [Text.replace, String.toList_ofList, show "_".toList = ['_'] from rfl,
    Text.replaceChars_singleton]
  exact List.mem_flatMap.mpr ⟨c, h, by simp [hc]⟩

namespace Scope

variable {darkVariant element : String} {s : Scope} {v : Variant} {vs : List Variant}

/-! ## The selector -/

/-- Whether the text that a variant puts around the selector has a place for it. -/
def NamesElement (darkVariant : String) : Variant → Prop
  | .dark => '&' ∈ darkVariant.toList
  | .template t => '&' ∈ t.toList
  | _ => True

theorem namesElement_of_parse? {name : String} (hdark : '&' ∈ darkVariant.toList)
    (h : Variant.parse? name = some v) : NamesElement darkVariant v := by
  cases Variant.Reads.of_parse? h with
  | dark => exact hdark
  | template _ helement => exact helement
  | _ => trivial

/-- A variant keeps the selector in one piece. -/
theorem unbroken_add (hv : NamesElement darkVariant v) :
    Unbroken s.selector (s.add darkVariant v).selector := by
  have hself : Unbroken s.selector s.selector := .refl _
  cases v with
  | state state => exact hself.append state
  | part | width => exact hself
  | group state => exact hself.prepend (".group" ++ state ++ " ")
  | peer state => exact hself.prepend (".peer" ++ state ++ " ~ ")
  -- the text that is there already is not looked at, so a `&` in it stays
  | dark => exact .replace (c := '&') hv
  | template t => exact .replace (c := '&') (mem_replace_underscores (by decide) hv)

theorem unbroken_foldl_add (hvs : ∀ v ∈ vs, NamesElement darkVariant v) :
    Unbroken s.selector (vs.foldl (add darkVariant) s).selector := by
  induction vs generalizing s with
  | nil => exact .refl _
  | cons v vs ih =>
    have hfirst : Unbroken s.selector (s.add darkVariant v).selector :=
      unbroken_add (hvs v List.mem_cons_self)
    exact hfirst.trans (ih fun w hw => hvs w (List.mem_cons_of_mem v hw))

/-- **A stack of variants keeps the selector in one piece.** -/
theorem unbroken_ofStack (hvs : ∀ v ∈ vs, NamesElement darkVariant v) :
    Unbroken element (ofStack darkVariant element vs).selector :=
  (unbroken_foldl_add (s := ofSelector element) hvs).append (lastPart vs)

/-! ## The conditions on the screen -/

/-- The condition on the screen that a variant asks for. -/
def condition? : Variant → Option String
  | .width _ least => some ("(min-width: " ++ least ++ ")")
  | _ => none

theorem media_add : (s.add darkVariant v).media = s.media ++ (condition? v).toList := by
  cases v <;> simp [add, condition?]

theorem media_foldl_add (darkVariant : String) (s : Scope) (vs : List Variant) :
    (vs.foldl (add darkVariant) s).media = s.media ++ vs.filterMap condition? := by
  induction vs generalizing s with
  | nil => simp
  | cons v vs ih =>
    rw [List.foldl_cons, ih, media_add, List.append_assoc, List.filterMap_cons]
    cases condition? v <;> rfl

/-- The condition on the screen that stands behind a name. -/
def breakpoint? (name : String) : Option String :=
  (Variant.widths.find? fun w => w.1 = name).map fun w => "(min-width: " ++ w.2.2 ++ ")"

theorem condition?_of_parse? {name : String} (h : Variant.parse? name = some v) :
    condition? v = breakpoint? name := by
  cases hfind : Variant.widths.find? fun w => w.1 = name with
  | some w =>
    obtain ⟨key, rank, least⟩ := w
    obtain rfl : key = name := by simpa using List.find?_some hfind
    have hparse := Variant.parse?_of_mem_widths (List.mem_of_find?_eq_some hfind)
    obtain rfl := Option.some.inj (h.symm.trans hparse)
    simp [breakpoint?, hfind, condition?]
  | none =>
    cases Variant.Reads.of_parse? h with
    | width hmem =>
      have hne := List.find?_eq_none.mp hfind _ hmem
      simp at hne
    | _ => simp [breakpoint?, hfind, condition?]

theorem media_ofStack {names : List String} (h : names.mapM Variant.parse? = some vs) :
    (ofStack darkVariant element vs).media = names.filterMap breakpoint? := by
  have hconditions : vs.filterMap condition? = names.filterMap breakpoint? := by
    have hall := forall₂_of_mapM h
    clear h
    induction hall with
    | nil => rfl
    | cons hparse _ ih =>
      rw [List.filterMap_cons, List.filterMap_cons, condition?_of_parse? hparse, ih]
  simpa [ofStack, ofSelector, hconditions] using
    media_foldl_add darkVariant (ofSelector element) vs

end Scope

/-! ## The declarations -/

theorem markImportant_eq (important : Bool) (declarations : List Declaration) :
    markImportant important declarations =
      declarations.map fun d => (d.1, if important then d.2 ++ " !important" else d.2) := by
  cases important <;> simp [markImportant]

namespace Compiler

/-- **A rule applies to the elements that carry its candidate.** In a theme whose dark scheme has a
place for the element, the class of a candidate is part of the selector of its rule, in one piece,
whatever variants are stacked on it. The conditions on the screen are those of the widths in the
stack, in their order, and the declarations are those of the class without variants, each marked as
important if and only if the candidate is. -/
theorem rule_of_element {t : Theme} {sheets : Sheets} {c : Compiler} {candidate : String}
    {rule : Rule} (hc : ofTheme t sheets = .ok c) (hdark : '&' ∈ t.darkVariant.toList)
    (h : c.resolve? candidate = some rule) :
    Unbroken ("." ++ Selector.escape candidate) rule.selector ∧
      ∃ parsed utility, Candidate.parse? candidate = some parsed ∧
        utility? t.names parsed.base = some utility ∧
        rule.media = parsed.variants.filterMap Scope.breakpoint? ∧
        rule.declarations = utility.declarations.map fun d =>
          (d.1, if parsed.important then d.2 ++ " !important" else d.2) := by
  obtain ⟨hnames, hvariant⟩ := of_ofTheme hc
  obtain ⟨parsed, utility, vs, hparsed, hutility, hvs, rfl⟩ := exists_of_resolve? h
  have hstack : ∀ v ∈ vs, Scope.NamesElement c.darkVariant v := by
    intro v hv
    obtain ⟨name, -, hname⟩ := exists_mem_of_mapM hvs hv
    exact Scope.namesElement_of_parse? (hvariant ▸ hdark) hname
  exact ⟨(Scope.unbroken_ofStack hstack).append (utility.child.getD ""), parsed, utility, hparsed,
    hnames ▸ hutility, Scope.media_ofStack hvs,
    markImportant_eq parsed.important utility.declarations⟩

/-- The class holds `&`, and so does the selector when the dark scheme is put around it. -/
theorem rule_of_element_with_ampersand :
    let t : Theme := ⟨[], "&:is(.dark *)", [], []⟩
    ∃ c rule, ofTheme t [] = .ok c ∧ '&' ∈ t.darkVariant.toList ∧
      c.resolve? "md:data-[&]:dark:[p_&]:sm:!p-4" = some rule ∧
      Unbroken ".md\\:data-\\[\\&\\]\\:dark\\:\\[p_\\&\\]\\:sm\\:\\!p-4" rule.selector ∧
      rule.media = ["(min-width: 48rem)", "(min-width: 40rem)"] ∧
      rule.declarations = [("padding", "calc(var(--spacing) * 4) !important")] := by
  intro t
  have hc : ofTheme t [] = .ok ⟨"" ++ t.tokenText ++ t.baseText, t.names, t.darkVariant⟩ := rfl
  have hdark : '&' ∈ t.darkVariant.toList := by decide
  have hsome : (resolve? ⟨"" ++ t.tokenText ++ t.baseText, t.names, t.darkVariant⟩
      "md:data-[&]:dark:[p_&]:sm:!p-4").isSome = true := by decide +kernel
  obtain ⟨rule, hrule⟩ := Option.isSome_iff_exists.mp hsome
  obtain ⟨hselector, parsed, utility, hparsed, hutility, hmedia, hdeclarations⟩ :=
    rule_of_element hc hdark hrule
  have hparse : Candidate.parse? "md:data-[&]:dark:[p_&]:sm:!p-4" =
      some ⟨["md", "data-[&]", "dark", "[p_&]", "sm"], "p-4", true⟩ := by decide +kernel
  obtain rfl := Option.some.inj (hparsed.symm.trans hparse)
  have hpadding : utility? t.names "p-4" =
      some ⟨[("padding", "calc(var(--spacing) * 4)")], none⟩ := by decide +kernel
  obtain rfl := Option.some.inj (hutility.symm.trans hpadding)
  have hclass : "." ++ Selector.escape "md:data-[&]:dark:[p_&]:sm:!p-4" =
      ".md\\:data-\\[\\&\\]\\:dark\\:\\[p_\\&\\]\\:sm\\:\\!p-4" := by decide
  exact ⟨_, rule, hc, hdark, hrule, hclass ▸ hselector, hmedia.trans (by decide), hdeclarations⟩

end Compiler
end LivePreview.Style
