import LivePreview.Proofs.CandidateParts
import LivePreview.Proofs.PropertyClasses
import LivePreview.Proofs.RuleElement
import LivePreview.Proofs.RuleOrder
/-!
# Shorthands and their longhands in a stylesheet

A class for all sides of a box, such as `p-4`, and a class for one side, such as `px-2`, set a
property that both of them decide. Which one takes effect is a matter of the order of their rules,
and with the same variants this is the order of the candidates' bytes: nothing looks at the
properties (`Compiler.pair_sublist_placed`). For most classes the shorthand comes first, since a
dash, a bracket and a digit sort before the letter of a side. Three kinds of classes sort behind
their longhands (`overtaken`): the words that hide an element or cut its text, which set shorthands
without their names; margins that are not negative, beside negative ones; and the radii whose word
sorts behind that of a side or a corner. A mark at the end sorts a candidate behind one with its
mark in front, whatever the classes are. All others keep the order
(`Compiler.shorthand_first_iff`).

The chart of `Utility.charted_of_utility?` has the forms of all classes in question, so the order of
the classes is that of a few pairs of forms, which is computed (`before_or_overtaken`,
`overtaken_before`).
-/
namespace LivePreview.Style

open Utility Candidate
open scoped List

/-! ## The order of texts that begin in a certain way -/

/-- Whether the bytes of a text that begins with the first word, or is this word if it is closed,
are less than those of each text that begins with the second word. -/
def sortsBefore (closed : Bool) : List UInt8 → List UInt8 → Bool
  | [], [] => false
  | [], _ :: _ => closed
  | _ :: _, [] => false
  | c :: s, d :: t => c < d || (c = d && sortsBefore closed s t)

theorem lt_of_sortsBefore {closed : Bool} {s t rest more : List UInt8}
    (h : sortsBefore closed s t = true) (hrest : closed = true → rest = []) :
    s ++ rest < t ++ more := by
  induction s, t using sortsBefore.induct with
  | case1 => cases h
  | case2 d t =>
    obtain rfl := hrest h
    exact List.nil_lt_cons ..
  | case3 => cases h
  | case4 c s d t ih =>
    have hsplit : c < d ∨ c = d ∧ sortsBefore closed s t = true := by simpa [sortsBefore] using h
    exact List.cons_lt_cons_iff.mpr (hsplit.imp_right fun hsame => ⟨hsame.1, ih hsame.2⟩)

namespace Utility.Form

variable {a b c mark : String} {f g : Form}

/-- Whether the class of a form is known to its end. -/
def closed : Form → Bool
  | .word _ => true
  | .front _ => false

/-- What the classes of a form begin with if a mark is put behind them. -/
def start (mark : String) : Form → String
  | .word text => text ++ mark
  | .front text => text

theorem Fits.exists_bytes_eq (h : f.Fits c) (mark : String) :
    ∃ rest, bytes (c ++ mark) = bytes (f.start mark) ++ rest ∧ (f.closed = true → rest = []) := by
  cases f with
  | word text =>
    obtain rfl : c = text := h
    exact ⟨[], (List.append_nil _).symm, fun _ => rfl⟩
  | front text =>
    obtain ⟨rest, rfl⟩ := h
    exact ⟨bytes (rest ++ mark), by rw [start, String.append_assoc, bytes_append], nofun⟩

/-- Whether all classes of a form sort before all those of another one if a mark is put behind both;
the mark may be empty. -/
def before (mark : String) (f g : Form) : Bool :=
  sortsBefore f.closed (bytes (f.start mark)) (bytes (g.start mark))

theorem lt_of_before (h : f.before mark g = true) (ha : f.Fits a) (hb : g.Fits b) :
    bytes (a ++ mark) < bytes (b ++ mark) := by
  obtain ⟨rest, hrest, hclosed⟩ := ha.exists_bytes_eq mark
  obtain ⟨more, hmore, -⟩ := hb.exists_bytes_eq mark
  rw [hrest, hmore]
  exact lt_of_sortsBefore h hclosed

/-- Whether all classes of a form are classes of another one. -/
def within : Form → Form → Bool
  | .word s, g => g.Fits s
  | .front s, .front t => Text.startsWith t s
  | .front _, .word _ => false

theorem Fits.of_within (h : f.within g = true) (hc : f.Fits c) : g.Fits c := by
  cases f with
  | word s =>
    obtain rfl : c = s := hc
    simpa [within] using h
  | front s =>
    obtain ⟨rest, rfl⟩ := hc
    cases g with
    | word t => cases h
    | front t =>
      obtain ⟨more, rfl⟩ := startsWith_iff.mp h
      exact ⟨more ++ rest, String.append_assoc ..⟩

end Utility.Form

/-! ## The classes that their longhands overtake -/

/-- The words for a radius of all corners that sort behind sides or corners, with these. -/
def sidesBeforeWord : List (String × List String) :=
  [("full", ["b", "bl", "br"]), ("lg", ["b", "bl", "br", "l"]), ("md", ["b", "bl", "br", "l"]),
   ("none", ["b", "bl", "br", "l"]), ("sm", ["b", "bl", "br", "l", "r"]),
   ("xs", ["b", "bl", "br", "l", "r", "t", "tl", "tr"]),
   ("xl", ["b", "bl", "br", "l", "r", "t", "tl", "tr"])]

/-- The forms of classes that set a shorthand, each with a form of classes that sort before them
although they set a longhand of it; every class has the form with an empty front. -/
def overtaken : List (Form × Form) :=
  [(.word "sr-only", .front ""), (.word "truncate", .front ""), (.front "m-", .front "-")] ++
    sidesBeforeWord.flatMap fun e => (e.2.flatMap fun side => wordForms ("rounded-" ++ side)).map
      fun f => (.word ("rounded-" ++ e.1), f)

/-- Whether a class for a shorthand is overtaken by one for a longhand. -/
def Overtaken (a b : String) : Prop := ∃ e ∈ overtaken, e.1.Fits a ∧ e.2.Fits b

instance (a b : String) : Decidable (Overtaken a b) := inferInstanceAs (Decidable (∃ e ∈ _, _))

variable {a b mark whole part : String} {parts : List String}

/-- The forms of the classes of a shorthand and of a longhand: those of the shorthand come first if
they are not overtaken. -/
theorem before_or_overtaken : ∀ e ∈ longhands, ∀ p ∈ e.2, ∀ g ∈ formsOf p, ∀ f ∈ formsOf e.1,
    (∀ mark ∈ ["", "!"], f.before mark g = true) ∨
      ∃ o ∈ overtaken, f.within o.1 = true ∧ g.within o.2 = true := by
  decide +kernel

/-- Those of the longhand come first if they overtake. -/
theorem overtaken_before : ∀ mark ∈ ["", "!"], ∀ o ∈ overtaken, o.2.before mark o.1 = true ∨
    ∀ e ∈ longhands, ∀ p ∈ e.2, ∀ g ∈ formsOf p, g.before mark o.1 = true := by
  decide +kernel

/-- **The order of two classes**, one for a shorthand and one for a longhand of it. -/
theorem bytes_lt_of_charted (hparts : (whole, parts) ∈ longhands) (hpart : part ∈ parts)
    (ha : Charted whole a) (hb : Charted part b) (hmark : mark ∈ ["", "!"]) :
    (¬ Overtaken a b → bytes (a ++ mark) < bytes (b ++ mark)) ∧
      (Overtaken a b → bytes (b ++ mark) < bytes (a ++ mark)) := by
  obtain ⟨f, hf, hfits⟩ := ha (mem_chartedProperties hparts List.mem_cons_self)
  obtain ⟨g, hg, hfits'⟩ := hb (mem_chartedProperties hparts (List.mem_cons_of_mem whole hpart))
  constructor
  · -- the forms say more than the classes: a pair of forms out of order is in the table
    intro hnot
    rcases before_or_overtaken _ hparts part hpart g hg f hf with hbefore | ⟨o, ho, hfo, hgo⟩
    · exact Form.lt_of_before (hbefore mark hmark) hfits hfits'
    · exact absurd ⟨o, ho, hfits.of_within hfo, hfits'.of_within hgo⟩ hnot
  · rintro ⟨o, ho, hao, hbo⟩
    rcases overtaken_before mark hmark o ho with hbefore | hbefore
    · exact Form.lt_of_before hbefore hbo hao
    · exact Form.lt_of_before (hbefore _ hparts part hpart g hg) hfits' hao

example : Overtaken "rounded-lg" "rounded-l-md" ∧ ¬ Overtaken "rounded-lg" "rounded-t" := by decide

/-- A mark in front sorts before a class of the chart. -/
theorem mark_lt {p c : String} (hp : p ∈ chartedProperties) (hc : Charted p c)
    (rest more : String) : bytes ("!" ++ rest) < bytes (c ++ more) := by
  have hforms : ∀ p ∈ chartedProperties, ∀ f ∈ formsOf p,
      sortsBefore false (bytes "!") (bytes (f.start "")) = true := by decide +kernel
  obtain ⟨f, hf, hfits⟩ := hc hp
  obtain ⟨behind, hbehind, -⟩ := hfits.exists_bytes_eq ""
  rw [String.append_empty] at hbehind
  rw [bytes_append, bytes_append, hbehind, List.append_assoc]
  exact lt_of_sortsBefore (hforms p hp f hf) nofun

/-! ## The order of candidates -/

/-- Whether a candidate has its mark in front of its class. -/
def Candidate.MarkedInFront (p : Candidate) (x : String) : Prop :=
  x = stackText p.variants ++ ("!" ++ p.base)

/-- Whether a candidate has its mark behind its class. -/
def Candidate.MarkedBehind (p : Candidate) (x : String) : Prop :=
  x = stackText p.variants ++ (p.base ++ "!")

/-- Whether a candidate for a shorthand sorts behind one for a longhand. -/
def LonghandFirst (x : String) (p : Candidate) (y : String) (q : Candidate) : Prop :=
  p.MarkedBehind x ∧ q.MarkedInFront y ∨
    Overtaken p.base q.base ∧ ¬ (p.MarkedInFront x ∧ q.MarkedBehind y)

/-- The last parts of two candidates are in the order of their classes, unless their marks stand at
different ends. -/
theorem bytes_lt_of_marked {last last' : String} {important : Bool}
    (hlast : Marked last a important) (hlast' : Marked last' b important)
    (hparts : (whole, parts) ∈ longhands) (hpart : part ∈ parts)
    (ha : Charted whole a) (hb : Charted part b) :
    let first := last = a ++ "!" ∧ last' = "!" ++ b ∨
      Overtaken a b ∧ ¬ (last = "!" ++ a ∧ last' = b ++ "!")
    (¬ first → bytes last < bytes last') ∧ (first → bytes last' < bytes last) := by
  have hwhole := mark_lt (mem_chartedProperties hparts List.mem_cons_self) ha
  have hlonghand := mark_lt (mem_chartedProperties hparts (List.mem_cons_of_mem whole hpart)) hb
  have hnea : "!" ++ a ≠ a ++ "!" := fun h => List.lt_irrefl _ (h ▸ hwhole a "!")
  have hneb : b ++ "!" ≠ "!" ++ b := fun h => List.lt_irrefl _ (h ▸ hlonghand b "!")
  have hclasses := fun mark (hmark : mark ∈ ["", "!"]) =>
    bytes_lt_of_charted hparts hpart ha hb hmark
  -- a mark in front sorts before all classes, so these only count if both marks are at one end
  cases hlast with
  | front =>
    cases hlast' with
    | front =>
      have hplain := hclasses "" (by decide)
      rw [String.append_empty, String.append_empty] at hplain
      rw [bytes_append, bytes_append]
      simpa [hnea, hneb.symm] using
        ⟨fun h => List.append_left_lt (hplain.1 h), fun h => List.append_left_lt (hplain.2 h)⟩
    | behind _ => simpa [hnea] using hlonghand a "!"
  | behind _ =>
    cases hlast' with
    | front => simpa using hwhole b "!"
    | behind _ => simpa [hnea.symm, hneb] using hclasses "!" (by decide)
  | plain hfront hback =>
    cases hlast' with
    | plain _ _ =>
      have hplain := hclasses "" (by decide)
      rw [String.append_empty, String.append_empty] at hplain
      simpa [hfront a, hback a] using hplain

variable {x y : String} {p q : Candidate}

/-- **The order of two candidates** with the same variants and the same importance. -/
theorem bytes_lt_of_parse? (hx : Candidate.parse? x = some p) (hy : Candidate.parse? y = some q)
    (hvariants : p.variants = q.variants) (himportant : p.important = q.important)
    (hparts : (whole, parts) ∈ longhands) (hpart : part ∈ parts)
    (ha : Charted whole p.base) (hb : Charted part q.base) :
    (¬ LonghandFirst x p y q → bytes x < bytes y) ∧
      (LonghandFirst x p y q → bytes y < bytes x) := by
  obtain ⟨last, hcut, hlast⟩ := exists_cut_of_parse? hx
  obtain ⟨last', hcut', hlast'⟩ := exists_cut_of_parse? hy
  have hlasts := bytes_lt_of_marked (himportant ▸ hlast) hlast' hparts hpart ha hb
  have hcancel : ∀ s t, stackText q.variants ++ s = stackText q.variants ++ t ↔ s = t := by
    intro s t
    simp [← String.toList_inj]
  obtain rfl := hcut.joined
  obtain rfl := hcut'.joined
  rw [LonghandFirst, MarkedBehind, MarkedInFront, MarkedInFront, MarkedBehind, hvariants]
  simp only [hcancel, bytes_append (stackText q.variants)]
  exact ⟨fun h => List.append_left_lt (hlasts.1 h), fun h => List.append_left_lt (hlasts.2 h)⟩

/-! ## The order of rules -/

/-- The variants alone decide on the rank. -/
theorem Scope.rank_foldl_add_congr {darkVariant : String} {s t : Scope} (vs : List Variant)
    (h : s.rank = t.rank) :
    (vs.foldl (Scope.add darkVariant) s).rank = (vs.foldl (Scope.add darkVariant) t).rank := by
  induction vs generalizing s t with
  | nil => exact h
  | cons v vs ih =>
    refine ih ?_
    cases v with
    | width rank least => simp only [Scope.add, h]
    | _ => simpa only [Scope.add] using h

/-- The properties that a rule sets. -/
def Rule.properties (r : Rule) : List String := r.declarations.map (·.1)

namespace Compiler

variable {c : Compiler} {r s : Rule} {candidates : List String}

theorem rank_eq (hx : Candidate.parse? x = some p) (hy : Candidate.parse? y = some q)
    (hvariants : p.variants = q.variants) (hr : c.resolve? x = some r)
    (hs : c.resolve? y = some s) : r.rank = s.rank := by
  obtain ⟨p', utility, vs, hp', -, hvs, rfl⟩ := exists_of_resolve? hr
  obtain ⟨q', utility', ws, hq', -, hws, rfl⟩ := exists_of_resolve? hs
  obtain rfl := Option.some.inj (hp'.symm.trans hx)
  obtain rfl := Option.some.inj (hq'.symm.trans hy)
  obtain rfl : vs = ws := Option.some.inj (hvs.symm.trans (hvariants ▸ hws))
  exact Scope.rank_foldl_add_congr vs rfl

/-- The rules of two candidates stand in the order of the candidates if they have the same rank. -/
theorem pair_sublist_placed (hx : x ∈ candidates) (hy : y ∈ candidates)
    (hr : c.resolve? x = some r) (hs : c.resolve? y = some s) (hrank : r.rank = s.rank)
    (hlt : bytes x < bytes y) :
    [(x, r), (y, s)] <+ c.placed candidates ∧ ¬ [(y, s), (x, r)] <+ c.placed candidates := by
  have hpairwise : (c.placed candidates).Pairwise Precedes := placed_pairwise candidates
  have hprecedes : Precedes (x, r) (y, s) := .inr ⟨hrank, hlt⟩
  refine ⟨?_, fun hsub => hprecedes.asymm (List.pairwise_iff_forall_sublist.mp hpairwise hsub)⟩
  obtain ⟨above, below, hplaced⟩ := List.append_of_mem (mem_placed.mpr ⟨hx, hr⟩)
  have hmem : (y, s) ∈ c.placed candidates := mem_placed.mpr ⟨hy, hs⟩
  rw [hplaced] at hmem hpairwise ⊢
  -- the rule of the second candidate is neither above that of the first one nor this one
  rcases List.mem_append.mp hmem with habove | hbelow
  · exact absurd ((List.pairwise_append.mp hpairwise).2.2 _ habove _ List.mem_cons_self)
      hprecedes.asymm
  rcases List.mem_cons.mp hbelow with heq | hbelow
  · rw [heq] at hprecedes
    exact absurd hprecedes hprecedes.asymm
  · exact ((List.singleton_sublist.mpr hbelow).cons_cons (x, r)).trans
      (List.sublist_append_right above _)

/-- The words for a radius that the playground's theme publishes are among those of the scale. -/
theorem radii_standard : ∀ r ∈ Theme.standard.names.radii, r ∈ radiusWords := by decide +kernel

theorem charted_of_resolve? {sheets : Sheets} (hc : ofTheme Theme.standard sheets = .ok c)
    (hx : Candidate.parse? x = some p) (hr : c.resolve? x = some r) (h : whole ∈ r.properties) :
    Charted whole p.base := by
  obtain ⟨p', utility, vs, hp', hutility, -, rfl⟩ := exists_of_resolve? hr
  obtain rfl := Option.some.inj (hp'.symm.trans hx)
  rw [(of_ofTheme hc).1] at hutility
  obtain ⟨d, hd, rfl⟩ := List.mem_map.mp h
  rw [markImportant_eq] at hd
  obtain ⟨e, he, rfl⟩ := List.mem_map.mp hd
  exact charted_of_utility? radii_standard hutility e he

/-- **A shorthand and a longhand of it in a stylesheet.** In the playground's theme, take two
candidates with the same variants and the same importance, one that sets a property with longhands
and one that sets such a longhand. In the stylesheet of all sets of candidates that hold both, the
rule for the shorthand stands in front of that for the longhand, so that the side or corner has its
own value, unless the candidate for the longhand sorts first: then the shorthand has the last word.
-/
theorem shorthand_first_iff {sheets : Sheets} (hc : ofTheme Theme.standard sheets = .ok c)
    (hx : Candidate.parse? x = some p) (hy : Candidate.parse? y = some q)
    (hvariants : p.variants = q.variants) (himportant : p.important = q.important)
    (hr : c.resolve? x = some r) (hs : c.resolve? y = some s)
    (hparts : (whole, parts) ∈ longhands) (hpart : part ∈ parts)
    (hwhole : whole ∈ r.properties) (hlonghand : part ∈ s.properties)
    (hxmem : x ∈ candidates) (hymem : y ∈ candidates) :
    c.build candidates = c.preamble ++ utilitiesText (c.placed candidates) ∧
      ([(x, r), (y, s)] <+ c.placed candidates ↔ ¬ LonghandFirst x p y q) ∧
      ([(y, s), (x, r)] <+ c.placed candidates ↔ LonghandFirst x p y q) := by
  obtain ⟨hfirst, hlast⟩ := bytes_lt_of_parse? hx hy hvariants himportant hparts hpart
    (charted_of_resolve? hc hx hr hwhole) (charted_of_resolve? hc hy hs hlonghand)
  have hrank : r.rank = s.rank := rank_eq hx hy hvariants hr hs
  refine ⟨build_eq candidates, ?_⟩
  by_cases hlonghandFirst : LonghandFirst x p y q
  · obtain ⟨hsub, hnot⟩ := pair_sublist_placed hymem hxmem hs hr hrank.symm (hlast hlonghandFirst)
    simp [hlonghandFirst, hsub, hnot]
  · obtain ⟨hsub, hnot⟩ := pair_sublist_placed hxmem hymem hr hs hrank (hfirst hlonghandFirst)
    simp [hlonghandFirst, hsub, hnot]

/-- A margin of all sides that is not negative, with a negative one: the mark in front keeps it
first. -/
theorem shorthand_first_iff_of_marks :
    ∃ c r s, ofTheme Theme.standard Sheets.builtin = .ok c ∧
      Candidate.parse? "md:!m-4" = some ⟨["md"], "m-4", true⟩ ∧
      Candidate.parse? "md:-mx-2!" = some ⟨["md"], "-mx-2", true⟩ ∧
      c.resolve? "md:!m-4" = some r ∧ c.resolve? "md:-mx-2!" = some s ∧
      ("margin", boxSides.map ("margin-" ++ ·)) ∈ longhands ∧
      "margin-inline" ∈ boxSides.map ("margin-" ++ ·) ∧
      "margin" ∈ r.properties ∧ "margin-inline" ∈ s.properties ∧
      [("md:!m-4", r), ("md:-mx-2!", s)] <+ c.placed ["md:-mx-2!", "flex", "md:!m-4"] := by
  obtain ⟨c, hc⟩ := exists_standard
  have hr : c.resolve? "md:!m-4" = some ⟨".md\\:\\!m-4",
      [("margin", "calc(var(--spacing) * 4) !important")], ["(min-width: 48rem)"], 2⟩ := by
    rw [(rules_of_ofTheme hc).1]
    decide +kernel
  have hs : c.resolve? "md:-mx-2!" = some ⟨".md\\:-mx-2\\!",
      [("margin-inline", "calc(calc(var(--spacing) * 2) * -1) !important")],
      ["(min-width: 48rem)"], 2⟩ := by
    rw [(rules_of_ofTheme hc).1]
    decide +kernel
  have hx : Candidate.parse? "md:!m-4" = some ⟨["md"], "m-4", true⟩ := by decide
  have hy : Candidate.parse? "md:-mx-2!" = some ⟨["md"], "-mx-2", true⟩ := by decide
  have hparts : ("margin", boxSides.map ("margin-" ++ ·)) ∈ longhands := by decide
  have hpart : "margin-inline" ∈ boxSides.map ("margin-" ++ ·) := by decide
  have hxmem : "md:!m-4" ∈ ["md:-mx-2!", "flex", "md:!m-4"] := by decide
  obtain ⟨-, hfirst, -⟩ := shorthand_first_iff hc hx hy rfl rfl hr hs hparts hpart
    List.mem_cons_self List.mem_cons_self hxmem List.mem_cons_self
  have hmarks : ¬ LonghandFirst "md:!m-4" ⟨["md"], "m-4", true⟩ "md:-mx-2!"
      ⟨["md"], "-mx-2", true⟩ := by
    rintro (⟨hbehind, -⟩ | ⟨-, hnot⟩)
    · revert hbehind
      unfold MarkedBehind
      decide
    · exact hnot ⟨rfl, rfl⟩
  exact ⟨c, _, _, hc, hx, hy, hr, hs, hparts, hpart, List.mem_cons_self, List.mem_cons_self,
    hfirst.mpr hmarks⟩

/-- The radius of a corner stands in front of a radius of all corners, which undoes it. -/
theorem corner_before_all_corners :
    ∃ c r s, ofTheme Theme.standard Sheets.builtin = .ok c ∧
      Candidate.parse? "rounded-xl" = some ⟨[], "rounded-xl", false⟩ ∧
      Candidate.parse? "rounded-t-md" = some ⟨[], "rounded-t-md", false⟩ ∧
      c.resolve? "rounded-xl" = some r ∧ c.resolve? "rounded-t-md" = some s ∧
      r.properties = ["border-radius"] ∧
      s.properties = ["border-top-left-radius", "border-top-right-radius"] ∧
      ¬ [("rounded-xl", r), ("rounded-t-md", s)] <+ c.placed ["rounded-xl", "rounded-t-md"] ∧
      c.build ["rounded-xl", "rounded-t-md"] = c.preamble ++ ("@layer utilities \x7b\n" ++
        "  .rounded-t-md \x7b border-top-left-radius: var(--radius-md); " ++
          "border-top-right-radius: var(--radius-md); \x7d\n" ++
        "  .rounded-xl \x7b border-radius: var(--radius-xl); \x7d\n" ++ "\x7d\n") := by
  obtain ⟨c, hc⟩ := exists_standard
  have hplaced : c.placed ["rounded-xl", "rounded-t-md"] =
      [("rounded-t-md", ⟨".rounded-t-md", [("border-top-left-radius", "var(--radius-md)"),
         ("border-top-right-radius", "var(--radius-md)")], [], 0⟩),
       ("rounded-xl", ⟨".rounded-xl", [("border-radius", "var(--radius-xl)")], [], 0⟩)] := by
    rw [placed, (rules_of_ofTheme hc).1]
    decide +kernel
  have hr := (mem_placed.mp (hplaced ▸ List.mem_cons_of_mem _ List.mem_cons_self)).2
  have hs := (mem_placed.mp (hplaced ▸ List.mem_cons_self)).2
  refine ⟨c, _, _, hc, by decide, by decide, hr, hs, rfl, rfl, ?_, ?_⟩
  · rw [hplaced]
    decide
  · rw [build_eq, hplaced]
    congr 1

end Compiler
end LivePreview.Style
