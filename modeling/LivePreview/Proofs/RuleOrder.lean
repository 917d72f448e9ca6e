import LivePreview.Proofs.StyleDelivery
import LivePreview.Proofs.TidyCandidates
import Mathlib.Tactic.SplitIfs
/-!
# The rules of a set of candidates

A stylesheet is made for a set of candidates: each candidate of the set that has a rule gives
exactly this one, and the rules stand in the order of their ranks, those of one rank in the order of
their candidates' bytes (`Compiler.placed`). This order is strict, so there is one list of rules for
a set, whatever list the set was given by, and a further candidate puts its rule into one place and
leaves all else as it is (`placed_insert`). The stylesheet is a fixed preamble with the texts of
these rules behind it (`stylesheet_of_set`).
-/
namespace LivePreview.Style

/-! ## The order of bytes -/

theorem cons_lt_of_lt {m n : Nat} {xs ys : List UInt8} (hn : n < 256) (h : m < n) :
    UInt8.ofNat m :: xs < UInt8.ofNat n :: ys := by
  refine List.cons_lt_cons_iff.mpr (.inl ?_)
  rw [UInt8.lt_iff_toNat_lt, UInt8.toNat_ofNat', UInt8.toNat_ofNat', Nat.mod_eq_of_lt hn,
    Nat.mod_eq_of_lt (by omega)]
  exact h

theorem cons_lt_of_le {m n : Nat} {xs ys : List UInt8} (hn : n < 256) (h : m ≤ n)
    (ht : m = n → xs < ys) : UInt8.ofNat m :: xs < UInt8.ofNat n :: ys := by
  rcases Nat.lt_or_eq_of_le h with hlt | rfl
  · exact cons_lt_of_lt hn hlt
  · exact List.cons_lt_cons_iff.mpr (.inr ⟨rfl, ht rfl⟩)

/-- Of two different characters the smaller one has the smaller bytes, whatever follows them. -/
theorem utf8EncodeChar_append_lt {c d : Char} (h : c < d) (xs ys : List UInt8) :
    String.utf8EncodeChar c ++ xs < String.utf8EncodeChar d ++ ys := by
  have hval : c.val.toNat < d.val.toNat := UInt32.lt_iff_toNat_lt.mp (Char.lt_def.mp h)
  have hd : d.val.toNat < 0x110000 := d.valid.elim (fun h => by omega) fun h => h.2
  simp only [String.utf8EncodeChar]
  generalize c.val.toNat = m at hval
  generalize d.val.toNat = n at hval hd
  split_ifs <;> simp only [List.cons_append, List.nil_append]
  -- the first byte is enough if there is only one, or if the characters have different lengths
  all_goals first | omega | exact cons_lt_of_lt (by omega) (by omega) | skip
  · refine cons_lt_of_le (by omega) (by omega) fun _ => ?_
    exact cons_lt_of_lt (by omega) (by omega)
  · refine cons_lt_of_le (by omega) (by omega) fun _ => ?_
    refine cons_lt_of_le (by omega) (by omega) fun _ => ?_
    exact cons_lt_of_lt (by omega) (by omega)
  · refine cons_lt_of_le (by omega) (by omega) fun _ => ?_
    refine cons_lt_of_le (by omega) (by omega) fun _ => ?_
    refine cons_lt_of_le (by omega) (by omega) fun _ => ?_
    exact cons_lt_of_lt (by omega) (by omega)

theorem bytes_eq (s : String) : bytes s = s.toList.flatMap String.utf8EncodeChar := by
  have h : s.toByteArray = s.toList.utf8Encode := by
    rw [← String.toByteArray_ofList, String.ofList_toList]
  simp [bytes, h, List.utf8Encode]

theorem bytes_lt_of_lt {s t : String} (h : s < t) : bytes s < bytes t := by
  have hchars : ∀ {l m : List Char}, l < m →
      l.flatMap String.utf8EncodeChar < m.flatMap String.utf8EncodeChar := by
    intro l m h
    induction h with
    | @nil d m =>
      rw [List.flatMap_nil, List.flatMap_cons]
      cases hd : String.utf8EncodeChar d with
      | nil => exact absurd hd String.utf8EncodeChar_ne_nil
      | cons b bs => exact List.nil_lt_cons ..
    | @cons c l m _ ih =>
      rw [List.flatMap_cons, List.flatMap_cons]
      exact List.append_left_lt ih
    | @rel c l d m hcd =>
      rw [List.flatMap_cons, List.flatMap_cons]
      exact utf8EncodeChar_append_lt hcd _ _
  rw [bytes_eq, bytes_eq]
  exact hchars (String.lt_iff.mp h)

/-! ## The ranks of rules -/

/-- The ranks are listed from the lowest on: zero, and then one for each width of a screen. -/
theorem Rule.ranks_pairwise : Rule.ranks.Pairwise (· < ·) := by decide

/-- A width that a name stands for has one of the ranks. -/
theorem Variant.rank_of_parse? {name least : String} {rank : Nat}
    (h : Variant.parse? name = some (.width rank least)) : rank ∈ Rule.ranks := by
  cases Variant.Reads.of_parse? h with
  | width hmem => exact List.mem_cons_of_mem 0 (List.mem_map.mpr ⟨_, hmem, rfl⟩)

theorem Scope.rank_foldl_add {darkVariant : String} {vs : List Variant} {s : Scope}
    (hs : s.rank ∈ Rule.ranks)
    (hvs : ∀ rank least, .width rank least ∈ vs → rank ∈ Rule.ranks) :
    (vs.foldl (Scope.add darkVariant) s).rank ∈ Rule.ranks := by
  induction vs generalizing s with
  | nil => exact hs
  | cons v vs ih =>
    refine ih ?_ fun rank least h => hvs rank least (List.mem_cons_of_mem v h)
    cases v with
    | width rank least =>
      have hrank : rank ∈ Rule.ranks := hvs rank least List.mem_cons_self
      show max s.rank rank ∈ Rule.ranks
      rcases Nat.le_total s.rank rank with h | h
      · rwa [Nat.max_eq_right h]
      · rwa [Nat.max_eq_left h]
    | _ => simpa only [Scope.add] using hs

namespace Compiler

variable {c : Compiler} {a b : List String} {x : String} {r : Rule}

/-- Every rule has one of the ranks, so none is lost when they are ordered. -/
theorem rank_mem_ranks (h : c.resolve? x = some r) : r.rank ∈ Rule.ranks := by
  obtain ⟨parsed, utility, vs, -, -, hvs, rfl⟩ := exists_of_resolve? h
  refine Scope.rank_foldl_add (s := .ofSelector _) List.mem_cons_self fun rank least hwidth => ?_
  obtain ⟨name, -, hname⟩ := exists_mem_of_mapM hvs hwidth
  exact Variant.rank_of_parse? hname

/-! ## The rules in their order -/

/-- Whether the rule of a candidate stands before that of another one: it has the lower rank, or
they have the same rank and the candidate has the lower bytes. -/
def Precedes (p q : String × Rule) : Prop :=
  p.2.rank < q.2.rank ∨ p.2.rank = q.2.rank ∧ bytes p.1 < bytes q.1

theorem Precedes.asymm {p q : String × Rule} (h : Precedes p q) : ¬ Precedes q p := by
  rintro (hlt | ⟨heq, hbytes⟩)
  · rcases h with h | ⟨h, -⟩ <;> omega
  · rcases h with h | ⟨-, h⟩
    · omega
    · exact List.lt_asymm h hbytes

/-- The candidates that have a rule, each once and with its rule, in the order of the rules. -/
def placed (c : Compiler) (candidates : List String) : List (String × Rule) :=
  Rule.ranks.flatMap fun k =>
    ((Text.ordered candidates).filterMap fun x => (c.resolve? x).map fun r => (x, r)).filter
      fun p => p.2.rank = k

theorem map_placed (a : List String) : (c.placed a).map (·.2) = c.rules a := by
  have hfilter : ∀ (k : Nat) (ps : List (String × Rule)),
      (ps.filter fun p => p.2.rank = k).map (·.2) = (ps.map (·.2)).filter fun r => r.rank = k := by
    intro k ps
    rw [List.filter_map]
    rfl
  simp [placed, rules, Rule.byRank, List.map_flatMap, hfilter, List.map_filterMap,
    Function.comp_def]

theorem mem_placed : (x, r) ∈ c.placed a ↔ x ∈ a ∧ c.resolve? x = some r := by
  simp only [placed, List.mem_flatMap, List.mem_filter, List.mem_filterMap, Text.mem_ordered,
    Option.map_eq_some_iff, Prod.mk.injEq, decide_eq_true_eq]
  constructor
  · rintro ⟨k, -, ⟨y, hy, s, hs, rfl, rfl⟩, -⟩
    exact ⟨hy, hs⟩
  · rintro ⟨hx, hr⟩
    exact ⟨r.rank, rank_mem_ranks hr, ⟨x, hx, r, hr, rfl, rfl⟩, rfl⟩

theorem placed_pairwise (a : List String) : (c.placed a).Pairwise Precedes := by
  refine List.pairwise_flatMap.mpr ⟨fun k _ => ?_, Rule.ranks_pairwise.imp fun hlt p hp q hq => ?_⟩
  · have hbytes : ((Text.ordered a).filterMap fun x => (c.resolve? x).map fun r => (x, r)).Pairwise
        fun p q => bytes p.1 < bytes q.1 := by
      refine (Text.ordered_pairwise a).filterMap _ fun y z hyz p hp q hq => ?_
      obtain ⟨_, -, rfl⟩ := Option.map_eq_some_iff.mp hp
      obtain ⟨_, -, rfl⟩ := Option.map_eq_some_iff.mp hq
      exact bytes_lt_of_lt hyz
    have hranks : ∀ p ∈ (((Text.ordered a).filterMap fun x =>
        (c.resolve? x).map fun r => (x, r)).filter fun p => p.2.rank = k), p.2.rank = k :=
      fun p hp => by simpa using (List.mem_filter.mp hp).2
    exact (hbytes.filter _).imp_of_mem fun hp hq hlt =>
      .inr ⟨(hranks _ hp).trans (hranks _ hq).symm, hlt⟩
  · have hp := (List.mem_filter.mp hp).2
    have hq := (List.mem_filter.mp hq).2
    simp only [decide_eq_true_eq] at hp hq
    exact .inl (by omega)

theorem nodup_of_precedes {ps : List (String × Rule)} (h : ps.Pairwise Precedes) : ps.Nodup :=
  h.imp fun hpq heq => (heq ▸ hpq).asymm (heq ▸ hpq)

/-- There is one list of rules in this order for a set of candidates. -/
theorem eq_of_precedes {ps qs : List (String × Rule)} (hps : ps.Pairwise Precedes)
    (hqs : qs.Pairwise Precedes) (h : ∀ p, p ∈ ps ↔ p ∈ qs) : ps = qs :=
  List.Perm.eq_of_pairwise (fun _ _ _ _ hpq hqp => absurd hqp hpq.asymm) hps hqs
    ((List.perm_ext_iff_of_nodup (nodup_of_precedes hps) (nodup_of_precedes hqs)).mpr h)

/-- **A further candidate** that has a rule puts it into one place. -/
theorem placed_insert (hb : ∀ y, y ∈ b ↔ y = x ∨ y ∈ a) (hx : x ∉ a)
    (hr : c.resolve? x = some r) :
    ∃ above below, c.placed b = above ++ (x, r) :: below ∧ c.placed a = above ++ below := by
  have hmem : (x, r) ∈ c.placed b := mem_placed.mpr ⟨(hb x).mpr (.inl rfl), hr⟩
  obtain ⟨above, below, hplaced⟩ := List.append_of_mem hmem
  refine ⟨above, below, hplaced, ?_⟩
  have hpairwise : (above ++ (x, r) :: below).Pairwise Precedes := hplaced ▸ placed_pairwise b
  have hrest : (above ++ below).Pairwise Precedes :=
    hpairwise.sublist ((List.sublist_cons_self _ _).append_left _)
  have hnew : (x, r) ∉ above ++ below :=
    (List.nodup_cons.mp (List.perm_middle.nodup_iff.mp (nodup_of_precedes hpairwise))).1
  refine eq_of_precedes (placed_pairwise a) hrest fun ⟨y, s⟩ => ?_
  have hsplit : (y, s) ∈ c.placed b ↔ (y, s) = (x, r) ∨ (y, s) ∈ above ++ below := by
    rw [hplaced, List.perm_middle.mem_iff, List.mem_cons]
  rw [mem_placed, hb] at hsplit
  rw [mem_placed]
  constructor
  · rintro ⟨hy, hs⟩
    rcases hsplit.mp ⟨.inr hy, hs⟩ with heq | hin
    · obtain ⟨rfl, -⟩ := Prod.mk.inj heq
      exact absurd hy hx
    · exact hin
  · intro hin
    obtain ⟨hy | hy, hs⟩ := hsplit.mpr (.inr hin)
    · subst hy
      obtain rfl := Option.some.inj (hr.symm.trans hs)
      exact absurd hin hnew
    · exact ⟨hy, hs⟩

/-! ## The stylesheet -/

/-- The layer with some rules; without a rule there is none. -/
def utilitiesText (ps : List (String × Rule)) : String :=
  if ps = [] then "" else layerText "utilities" (String.join (ps.map fun p => p.2.text))

theorem build_eq (a : List String) : c.build a = c.preamble ++ utilitiesText (c.placed a) := by
  rw [build, ← map_placed, utilitiesText, List.map_map]
  by_cases h : c.placed a = [] <;> simp [h, Function.comp_def]

theorem preamble_of_ofTheme {t : Theme} {sheets : Sheets} (h : ofTheme t sheets = .ok c) :
    t.preamble sheets = .ok c.preamble := by
  rw [ofTheme] at h
  cases hpreamble : t.preamble sheets with
  | error e => simp [hpreamble, Except.map] at h
  | ok preamble =>
    obtain rfl : (⟨preamble, t.names, t.darkVariant⟩ : Compiler) = c := by
      simpa [hpreamble, Except.map] using h
    rfl

theorem placed_eq_nil_iff : c.placed a = [] ↔ ∀ x ∈ a, c.resolve? x = none := by
  rw [List.eq_nil_iff_forall_not_mem]
  constructor
  · intro h x hx
    cases hr : c.resolve? x with
    | none => rfl
    | some r => exact absurd (mem_placed.mpr ⟨hx, hr⟩) (h (x, r))
  · rintro h ⟨x, r⟩ hp
    obtain ⟨hx, hr⟩ := mem_placed.mp hp
    simp [h x hx] at hr

/-- A rule in the layer, with the texts in front of it and behind it. -/
theorem utilitiesText_middle (above below : List (String × Rule)) :
    ∃ front back, utilitiesText (above ++ (x, r) :: below) = front ++ r.text ++ back ∧
      (above ++ below ≠ [] → utilitiesText (above ++ below) = front ++ back) := by
  refine ⟨"@layer utilities \x7b\n" ++ String.join (above.map fun p => p.2.text),
    String.join (below.map fun p => p.2.text) ++ "\x7d\n", ?_, fun hne => ?_⟩
  · simp [utilitiesText, layerText, String.append_assoc]
  · simp [utilitiesText, layerText, hne, String.append_assoc]

/-- **The stylesheet of a set of candidates.** For every theme whose sheets are there, lists with
the same members have the same stylesheet. It is the theme's preamble, and behind it, exactly if a
candidate has a rule, one layer with the rule of each such candidate, ordered by their ranks and
within a rank by the bytes of the candidates. A further candidate puts its own rule between two
pieces of the stylesheet, or starts the layer with it; if it has no rule nothing changes. -/
theorem stylesheet_of_set {t : Theme} {sheets : Sheets} (h : ofTheme t sheets = .ok c) :
    (∀ a b, (∀ x, x ∈ a ↔ x ∈ b) → c.build a = c.build b) ∧
    (∀ a, ∃ ps preamble, t.preamble sheets = .ok preamble ∧
      (∀ x r, (x, r) ∈ ps ↔ x ∈ a ∧ c.resolve? x = some r) ∧
      ps.Pairwise Precedes ∧ (∀ p ∈ ps, p.2.rank ∈ Rule.ranks) ∧
      (ps = [] ↔ ∀ x ∈ a, c.resolve? x = none) ∧
      c.build a = preamble ++ utilitiesText ps) ∧
    ∀ a b x, (∀ y, y ∈ b ↔ y = x ∨ y ∈ a) →
      (x ∈ a ∨ c.resolve? x = none → c.build b = c.build a) ∧
      ∀ r, x ∉ a → c.resolve? x = some r →
        if ∀ y ∈ a, c.resolve? y = none then
          c.build b = c.build a ++ layerText "utilities" r.text
        else ∃ front back, c.build a = front ++ back ∧ c.build b = front ++ r.text ++ back := by
  refine ⟨fun a b hab => build_congr (Text.ordered_congr hab), fun a => ?_, fun a b x hb => ?_⟩
  · refine ⟨c.placed a, c.preamble, preamble_of_ofTheme h, fun x r => mem_placed,
      placed_pairwise a, fun p hp => rank_mem_ranks (mem_placed.mp hp).2, placed_eq_nil_iff,
      build_eq a⟩
  · refine ⟨fun hx => ?_, fun r hx hr => ?_⟩
    · have hsame : c.placed b = c.placed a := by
        refine eq_of_precedes (placed_pairwise b) (placed_pairwise a) fun ⟨y, s⟩ => ?_
        rw [mem_placed, mem_placed, hb]
        constructor
        · rintro ⟨rfl | hy, hs⟩
          · rcases hx with hx | hx
            · exact ⟨hx, hs⟩
            · simp [hx] at hs
          · exact ⟨hy, hs⟩
        · exact fun ⟨hy, hs⟩ => ⟨.inr hy, hs⟩
      rw [build_eq, build_eq, hsame]
    · obtain ⟨above, below, hplaced, hrest⟩ := placed_insert hb hx hr
      split
      · rename_i hnone
        have hnil : above ++ below = [] := hrest ▸ placed_eq_nil_iff.mpr hnone
        obtain ⟨rfl, rfl⟩ := List.append_eq_nil_iff.mp hnil
        rw [build_eq, build_eq, hplaced, hrest]
        simp [utilitiesText, String.join]
      · rename_i hsome
        have hne : above ++ below ≠ [] := fun hnil =>
          hsome (placed_eq_nil_iff.mp (hrest.trans hnil))
        obtain ⟨front, back, hmiddle, hpieces⟩ := utilitiesText_middle (x := x) (r := r) above below
        refine ⟨c.preamble ++ front, back, ?_, ?_⟩
        · rw [build_eq, hrest, hpieces hne, String.append_assoc]
        · rw [build_eq, hplaced, hmiddle]
          simp only [String.append_assoc]

/-- The rule of a further candidate stands between those of two others. -/
theorem stylesheet_of_set_with_width :
    let t : Theme := ⟨[], "&:is(.dark *)", [("--radius-lg", "1rem")], []⟩
    ∃ c, ofTheme t [] = .ok c ∧
      c.build ["md:p-4", "flex", "Flex", "md:p-4"] = c.build ["Flex", "flex", "md:p-4"] ∧
      ∃ front back, c.build ["Flex", "flex", "md:p-4"] = front ++ back ∧
        c.build ["p-2", "Flex", "flex", "md:p-4"] =
          front ++ "  .p-2 \x7b padding: calc(var(--spacing) * 2); \x7d\n" ++ back := by
  intro t
  have hc : ofTheme t [] = .ok ⟨"" ++ t.tokenText ++ t.baseText, t.names, t.darkVariant⟩ := rfl
  obtain ⟨hset, -, hfurther⟩ := stylesheet_of_set hc
  refine ⟨_, hc, hset _ _ fun x => by grind, ?_⟩
  have hresolve : resolve? ⟨"" ++ t.tokenText ++ t.baseText, t.names, t.darkVariant⟩ "p-2" =
      some ⟨".p-2", [("padding", "calc(var(--spacing) * 2)")], [], 0⟩ := by
    decide +kernel
  have hsome : ¬ ∀ y ∈ ["Flex", "flex", "md:p-4"],
      resolve? ⟨"" ++ t.tokenText ++ t.baseText, t.names, t.darkVariant⟩ y = none := by
    decide +kernel
  have htext : (⟨".p-2", [("padding", "calc(var(--spacing) * 2)")], [], 0⟩ : Rule).text =
      "  .p-2 \x7b padding: calc(var(--spacing) * 2); \x7d\n" := by
    decide +kernel
  have hinsert := (hfurther ["Flex", "flex", "md:p-4"] ["p-2", "Flex", "flex", "md:p-4"] "p-2"
    fun y => List.mem_cons).2 _ (by decide) hresolve
  rwa [if_neg hsome, htext] at hinsert

end Compiler
end LivePreview.Style
