import LivePreview.Proofs.JsonText
import LivePreview.Realm.Document
/-!
# Text in elements that end at their closing tag

A style sheet or an import map stands in an element that ends where `</` does not belong to its
text, so the slash is escaped (`slashed`). The escaped text has no `</` left
(`occurs_escapeRaw`), and a JSON document means what it meant: `<` is no token, so `</` only stands
inside strings, where a backslash in front of a slash counts for nothing
(`readDocument?_escapeRaw`).

The escape is a replacement, and so is filling in the holes of a page. A replacement does its work on
both sides of a character that it cannot touch (`replaceChars_append_cons`).
-/
namespace LivePreview

namespace Text

/-! ## Replacing piece by piece -/

section Pieces

variable {old new a b p s : List Char} {c : Char}

theorem prefix_append_cons_iff (hc : c ∉ p) : p <+: a ++ c :: b ↔ p <+: a := by
  induction a generalizing p with
  | nil =>
    cases p with
    | nil => simp
    | cons x p =>
      have hx : x ≠ c := fun h => hc (h ▸ List.mem_cons_self)
      simp [List.cons_prefix_cons, hx]
  | cons d a ih =>
    cases p with
    | nil => simp
    | cons x p =>
      rw [List.cons_append, List.cons_prefix_cons, List.cons_prefix_cons,
        ih fun h => hc (List.mem_cons_of_mem x h)]

/-- A piece that does not hold a character stands on one of its sides. -/
theorem infix_append_cons_iff (hp : p ≠ []) (hc : c ∉ p) :
    p <:+: a ++ c :: b ↔ p <:+: a ∨ p <:+: b := by
  have hfront : ¬ p <+: c :: b := fun h =>
    hp (List.prefix_nil.mp ((prefix_append_cons_iff (a := []) hc).mp h))
  induction a with
  | nil => simp [List.infix_cons_iff, hfront, hp]
  | cons d a ih =>
    rw [List.cons_append, List.infix_cons_iff, List.infix_cons_iff, or_assoc, ← List.cons_append,
      prefix_append_cons_iff hc]
    exact or_congr Iff.rfl ih

theorem replaceFrom_append_cons (hold : old ≠ []) (hc : c ∉ old) {skip : Nat}
    (hskip : skip ≤ a.length) : replaceFrom old new skip (a ++ c :: b) =
      replaceFrom old new skip a ++ c :: replaceFrom old new 0 b := by
  have hprefix : ∀ t, old.isPrefixOf (t ++ c :: b) = old.isPrefixOf t := fun t => by
    rw [Bool.eq_iff_iff, List.isPrefixOf_iff_prefix, List.isPrefixOf_iff_prefix,
      prefix_append_cons_iff hc]
  induction a generalizing skip with
  | nil =>
    obtain rfl : skip = 0 := Nat.le_zero.mp hskip
    have hhere : old.isPrefixOf (c :: b) = false := by
      rw [← List.nil_append (c :: b), hprefix, Bool.eq_false_iff, Ne, List.isPrefixOf_iff_prefix,
        List.prefix_nil]
      exact hold
    simp [replaceFrom, hhere]
  | cons d a ih =>
    cases skip with
    | succ skip => exact ih (Nat.le_of_succ_le_succ hskip)
    | zero =>
      rw [List.cons_append, replaceFrom, replaceFrom, ← List.cons_append, hprefix]
      split
      · rename_i hhere
        have hlen := (List.isPrefixOf_iff_prefix.mp hhere).length_le
        rw [ih (by simp at hlen; omega), List.append_assoc]
      · rw [ih (Nat.zero_le _), List.cons_append]

/-- A replacement does its work on both sides of a character that it cannot touch. -/
theorem replaceChars_append_cons (hold : old ≠ []) (hc : c ∉ old) :
    replaceChars old new (a ++ c :: b) = replaceChars old new a ++ c :: replaceChars old new b :=
  replaceFrom_append_cons hold hc (Nat.zero_le _)

/-- What does not occur is not replaced. -/
theorem replaceChars_eq_self (h : ¬ old <:+: s) : replaceChars old new s = s := by
  rw [replaceChars]
  induction s with
  | nil => rfl
  | cons c r ih =>
    rw [List.infix_cons_iff, not_or] at h
    have hhere : ¬ old.isPrefixOf (c :: r) = true := mt List.isPrefixOf_iff_prefix.mp h.1
    rw [replaceFrom, if_neg hhere, ih h.2]

theorem replaceFrom_length (s : List Char) : replaceFrom old new s.length s = [] := by
  induction s with
  | nil => rfl
  | cons c r ih => exact ih

/-- What is replaced is replaced as a whole. -/
theorem replaceChars_self (hold : old ≠ []) : replaceChars old new old = new := by
  cases old with
  | nil => exact absurd rfl hold
  | cons o old =>
    have hhere : (o :: old).isPrefixOf (o :: old) = true := by simp
    rw [replaceChars, replaceFrom, if_pos hhere]
    simpa using replaceFrom_length old

end Pieces

end Text

namespace Realm.Document

open Text

/-! ## The escape -/

/-- Puts a backslash between `<` and `/`. -/
def slashed : List Char → List Char
  | '<' :: '/' :: r => '<' :: '\\' :: '/' :: slashed r
  | c :: r => c :: slashed r
  | [] => []

theorem slashed_cons {c : Char} (hc : c ≠ '<') (r : List Char) :
    slashed (c :: r) = c :: slashed r := by
  rw [slashed]
  exact fun _ h _ => hc h

theorem slashed_open {r : List Char} (h : ∀ t, r ≠ '/' :: t) :
    slashed ('<' :: r) = '<' :: slashed r := by
  rw [slashed]
  exact fun t _ hr => h t hr

theorem escapeRaw_eq (text : String) :
    escapeRaw text = String.ofList (slashed text.toList) := by
  suffices h : ∀ s, replaceChars ['<', '/'] ['<', '\\', '/'] s = slashed s by
    rw [escapeRaw, replace]
    exact congrArg String.ofList (h text.toList)
  intro s
  rw [replaceChars]
  induction s using slashed.induct with
  | case1 r ih => simp [replaceFrom, slashed, ih]
  | case2 c r hne ih =>
    have hhere : ['<', '/'].isPrefixOf (c :: r) = false := by
      rw [Bool.eq_false_iff, Ne, List.isPrefixOf_iff_prefix]
      rintro ⟨t, ht⟩
      obtain ⟨rfl, rfl⟩ := List.cons.inj ht
      exact hne t rfl rfl
    rw [replaceFrom, hhere, slashed.eq_2 _ _ hne]
    simpa using ih
  | case3 => rfl

theorem length_le_slashed (s : List Char) : s.length ≤ (slashed s).length := by
  induction s using slashed.induct with
  | case1 r ih => simp [slashed]; omega
  | case2 c r hne ih =>
    rw [slashed.eq_2 _ _ hne]
    simpa using ih
  | case3 => exact Nat.le_refl 0

/-- The escape begins with the first character of its text. -/
theorem slashed_ne_slash {r : List Char} (h : ∀ t, r ≠ '/' :: t) (t : List Char) :
    slashed r ≠ '/' :: t := by
  cases r with
  | nil => simp [slashed]
  | cons c r =>
    by_cases hc : c = '<'
    · subst hc
      by_cases hr : ∃ u, r = '/' :: u
      · obtain ⟨u, rfl⟩ := hr
        simp [slashed]
      · rw [slashed_open fun u hu => hr ⟨u, hu⟩]
        simp
    · rw [slashed_cons hc]
      intro heq
      obtain ⟨rfl, -⟩ := List.cons.inj heq
      exact h r rfl

/-- **No closing tag** is left in a text that was escaped. -/
theorem occurs_escapeRaw (text : String) : occurs "</" (escapeRaw text) = false := by
  suffices h : ∀ s, ¬ ['<', '/'] <:+: slashed s by
    rw [Bool.eq_false_iff, Ne, occurs_eq_true, escapeRaw_eq]
    exact fun hin => h text.toList (by simpa using hin)
  intro s
  induction s using slashed.induct with
  | case1 r ih => simpa [slashed, List.infix_cons_iff] using ih
  | case2 c r hne ih =>
    rw [slashed.eq_2 _ _ hne, List.infix_cons_iff, not_or]
    refine ⟨fun hfront => ?_, ih⟩
    obtain ⟨t, ht⟩ := hfront
    obtain ⟨rfl, hrest⟩ := List.cons.inj ht
    exact slashed_ne_slash (fun u hu => hne u rfl hu) t hrest.symm
  | case3 => simp [slashed]

theorem exists_slashed_cons (c : Char) (r : List Char) : ∃ t, slashed (c :: r) = c :: t := by
  cases h : slashed (c :: r) with
  | nil => simpa [h] using length_le_slashed (c :: r)
  | cons d t =>
    by_cases hc : c = '<'
    · subst hc
      by_cases hr : ∃ u, r = '/' :: u
      · obtain ⟨u, rfl⟩ := hr
        exact ⟨t, by rw [slashed] at h; rw [← h, (List.cons.inj h).2]⟩
      · rw [slashed_open fun u hu => hr ⟨u, hu⟩] at h
        exact ⟨t, by rw [(List.cons.inj h).1]⟩
    · rw [slashed_cons hc] at h
      exact ⟨t, by rw [(List.cons.inj h).1]⟩

/-- What is no `<` stands in the escape as it stands in the text. -/
theorem slashed_eq_cons {s t : List Char} {c : Char} (hc : c ≠ '<') (h : slashed s = c :: t) :
    ∃ r, s = c :: r ∧ t = slashed r := by
  cases s with
  | nil => exact nomatch h
  | cons d r =>
    obtain ⟨u, hu⟩ := exists_slashed_cons d r
    obtain rfl : d = c := (List.cons.inj (hu.symm.trans h)).1
    rw [slashed_cons hc] at h
    exact ⟨r, rfl, (List.cons.inj h).2.symm⟩

end Realm.Document

/-! ## Reading what is escaped -/

namespace Json

open Realm.Document

section Slashed

variable {s r X : List Char} {v : Option (List Char)} {a b c d : Char} {n : Nat}

theorem ne_open_of_hexQuad? (h : hexQuad? a b c d = some n) :
    a ≠ '<' ∧ b ≠ '<' ∧ c ≠ '<' ∧ d ≠ '<' := by
  have hnone : hexDigit? '<' = none := by decide
  refine ⟨?_, ?_, ?_, ?_⟩ <;> rintro rfl <;> simp [hexQuad?, hnone] at h

/-- Whether an escape of four digits and what is behind it are no pair of halves. -/
def Unpaired (n : Nat) (X : List Char) : Prop :=
  ∀ e f g h r m, X = '\\' :: 'u' :: e :: f :: g :: h :: r → hexQuad? e f g h = some m →
    (isHighHalf n && isLowHalf m) = false

theorem Unpaired.slashed (hX : Unpaired n X) : Unpaired n (slashed X) := by
  intro e f g h r m hr hm
  obtain ⟨he, hf, hg, hh⟩ := ne_open_of_hexQuad? hm
  obtain ⟨X₁, rfl, h₁⟩ := slashed_eq_cons (by decide) hr
  obtain ⟨X₂, rfl, h₂⟩ := slashed_eq_cons (by decide) h₁.symm
  obtain ⟨X₃, rfl, h₃⟩ := slashed_eq_cons he h₂.symm
  obtain ⟨X₄, rfl, h₄⟩ := slashed_eq_cons hf h₃.symm
  obtain ⟨X₅, rfl, h₅⟩ := slashed_eq_cons hg h₄.symm
  obtain ⟨X₆, rfl, -⟩ := slashed_eq_cons hh h₅.symm
  exact hX e f g h X₆ m rfl hm

/-- An escape of four digits that begins no pair stands for itself. -/
theorem stringTail?_quad (hn : hexQuad? a b c d = some n) (hX : Unpaired n X) :
    stringTail? ('\\' :: 'u' :: a :: b :: c :: d :: X) =
      stringTail?.unpaired n (stringTail? X) := by
  by_cases hpair : ∃ e f g h r, X = '\\' :: 'u' :: e :: f :: g :: h :: r
  · obtain ⟨e, f, g, h, r, rfl⟩ := hpair
    rw [stringTail?, hn]
    cases hm : hexQuad? e f g h with
    | none => rfl
    | some m => simp [hX e f g h r m rfl hm]
  · rw [stringTail?.eq_4, hn]
    intro e f g h r hr
    exact hpair ⟨e, f, g, h, r, hr⟩

theorem unpaired_slashed
    (ih : ∀ {v r}, stringTail? X = some (v, r) → stringTail? (slashed X) = some (v, slashed r))
    (h : stringTail?.unpaired n (stringTail? X) = some (v, r)) :
    stringTail?.unpaired n (stringTail? (slashed X)) = some (v, slashed r) := by
  rw [stringTail?.unpaired] at h ⊢
  split at h
  all_goals
    rename_i hhalf
    obtain ⟨⟨w, t⟩, ht, heq⟩ := Option.map_eq_some_iff.mp h
    obtain ⟨rfl, rfl⟩ := Prod.mk.inj heq
    simp [hhalf, ih ht, consChar]

/-- A string is read back from its escape. -/
theorem stringTail?_slashed (h : stringTail? s = some (v, r)) :
    stringTail? (slashed s) = some (v, slashed r) := by
  have hquad : ∀ {a b c d : Char} {n : Nat} {X : List Char}, hexQuad? a b c d = some n →
      slashed ('\\' :: 'u' :: a :: b :: c :: d :: X) =
        '\\' :: 'u' :: a :: b :: c :: d :: slashed X := by
    intro a b c d n X hn
    obtain ⟨ha, hb, hc, hd⟩ := ne_open_of_hexQuad? hn
    simp [slashed_cons, ha, hb, hc, hd]
  induction s using stringTail?.induct generalizing v r with
  | case1 => cases h
  | case2 t =>
    obtain ⟨rfl, rfl⟩ := Prod.mk.inj (Option.some.inj h)
    rw [slashed_cons (by decide)]
    rfl
  | case3 a b c d e f g k t n m hm hn hpair ih =>
    rw [hquad hn, hquad hm]
    rw [stringTail?] at h ⊢
    simp only [hn, hm, hpair, if_true] at h ⊢
    obtain ⟨⟨w, u⟩, hu, heq⟩ := Option.map_eq_some_iff.mp h
    obtain ⟨rfl, rfl⟩ := Prod.mk.inj heq
    simp [ih hu, consChar]
  | case4 a b c d e f g k t n m hm hn hpair ih =>
    have hX : Unpaired n ('\\' :: 'u' :: e :: f :: g :: k :: t) := by
      rintro e f g k t m' heq hm'
      simp only [List.cons.injEq, true_and] at heq
      obtain ⟨rfl, rfl, rfl, rfl, rfl⟩ := heq
      obtain rfl : m = m' := Option.some.inj (hm.symm.trans hm')
      simpa using hpair
    rw [stringTail?_quad hn hX] at h
    rw [hquad hn, stringTail?_quad hn hX.slashed]
    exact unpaired_slashed ih h
  | case5 a b c d e f g k t n hm hn ih =>
    have hX : Unpaired n ('\\' :: 'u' :: e :: f :: g :: k :: t) := by
      rintro e f g k t m' heq hm'
      simp only [List.cons.injEq, true_and] at heq
      obtain ⟨rfl, rfl, rfl, rfl, rfl⟩ := heq
      cases hm.symm.trans hm'
    rw [stringTail?_quad hn hX] at h
    rw [hquad hn, stringTail?_quad hn hX.slashed]
    exact unpaired_slashed ih h
  | case6 a b c d e f g k t hn =>
    rw [stringTail?] at h
    simp [hn] at h
  | case7 a b c d t hne n hn ih =>
    have hX : Unpaired n t := fun e f g k u m heq => absurd heq (hne e f g k u)
    rw [stringTail?_quad hn hX] at h
    rw [hquad hn, stringTail?_quad hn hX.slashed]
    exact unpaired_slashed ih h
  | case8 a b c d t hne hn =>
    rw [stringTail?.eq_4 _ _ _ _ _ hne, hn] at h
    cases h
  | case9 e t h₁ h₂ x hx ih =>
    rw [stringTail?.eq_5 _ _ h₁ h₂, hx] at h
    obtain ⟨⟨w, u⟩, hu, heq⟩ := Option.map_eq_some_iff.mp h
    obtain ⟨rfl, rfl⟩ := Prod.mk.inj heq
    have he : e ≠ '<' ∧ e ≠ 'u' := by
      constructor <;> (rintro rfl; cases hx)
    rw [slashed_cons (by decide), slashed_cons he.1,
      stringTail?.eq_5 _ _ (fun _ _ _ _ _ _ _ _ _ h _ => he.2 h) (fun _ _ _ _ _ h _ => he.2 h), hx]
    simp [ih hu, consChar]
  | case10 e t h₁ h₂ hx =>
    rw [stringTail?.eq_5 _ _ h₁ h₂, hx] at h
    cases h
  | case11 c t hquote h₁ h₂ h₃ hbad =>
    rw [stringTail?.eq_6 _ _ hquote h₁ h₂ h₃, if_pos hbad] at h
    cases h
  | case12 c t hquote h₁ h₂ h₃ hplain ih =>
    rw [stringTail?.eq_6 _ _ hquote h₁ h₂ h₃, if_neg hplain] at h
    obtain ⟨⟨w, u⟩, hu, heq⟩ := Option.map_eq_some_iff.mp h
    obtain ⟨rfl, rfl⟩ := Prod.mk.inj heq
    have hback : c ≠ '\\' := by
      rintro rfl
      exact hplain rfl
    have hstep : ∀ u, stringTail? (c :: u) = (stringTail? u).map (consChar c) := fun u => by
      rw [stringTail?.eq_6 _ _ hquote (fun _ _ _ _ _ _ _ _ _ h _ => hback h)
        (fun _ _ _ _ _ h _ => hback h) (fun _ _ h _ => hback h), if_neg hplain]
    by_cases htag : c = '<' ∧ ∃ x, t = '/' :: x
    · -- the slash is read from its escape
      obtain ⟨rfl, x, rfl⟩ := htag
      have hslash : slashed ('/' :: x) = '/' :: slashed x := slashed_cons (by decide) x
      have hescape : stringTail? ('\\' :: '/' :: slashed x) = stringTail? ('/' :: slashed x) := by
        simp [stringTail?, simpleEscape?]
      rw [slashed, hstep, hescape, ← hslash, ih hu]
      rfl
    · have hcons : slashed (c :: t) = c :: slashed t := by
        rw [slashed]
        exact fun x hc ht => htag ⟨hc, x, ht⟩
      rw [hcons, hstep, ih hu]
      rfl

/-! ### Values -/

/-- What does not start with a character does not start with it when it is escaped. -/
theorem slashed_ne_cons (hc : c ≠ '<') (h : ∀ t, s ≠ c :: t) (t : List Char) :
    slashed s ≠ c :: t := fun heq =>
  have ⟨r, hr, _⟩ := slashed_eq_cons hc heq
  h r hr

theorem slashed_append_of_plain {p : List Char} (hp : ∀ c ∈ p, c ≠ '<') (s : List Char) :
    slashed (p ++ s) = p ++ slashed s := by
  induction p with
  | nil => rfl
  | cons c p ih =>
    rw [List.cons_append, slashed_cons (hp c List.mem_cons_self),
      ih fun d hd => hp d (List.mem_cons_of_mem c hd)]
    rfl

theorem slashed_gap {g : List Char} (hg : Gap g) (s : List Char) :
    slashed (g ++ s) = g ++ slashed s :=
  slashed_append_of_plain (fun c hc h => absurd (hg c hc) (by subst h; decide)) s

theorem slashed_digits (n : Nat) (s : List Char) :
    slashed (Decimal.digitsOf n ++ s) = Decimal.digitsOf n ++ slashed s :=
  slashed_append_of_plain
    (fun c hc h => absurd (isAsciiDigit_of_mem_digitsOf hc) (by subst h; decide)) s

theorem skipGap_slashed (s : List Char) : skipGap (slashed s) = slashed (skipGap s) := by
  induction s with
  | nil => rfl
  | cons c r ih =>
    by_cases hc : isGap c = true
    · have hskip : ∀ t, skipGap (c :: t) = skipGap t := fun t => by simp [skipGap, hc]
      rw [slashed_cons (fun h => absurd hc (by subst h; decide)), hskip, hskip, ih]
    · obtain ⟨t, ht⟩ := exists_slashed_cons c r
      have hc : isGap c = false := by simpa using hc
      rw [skipGap_cons hc, ht, skipGap_cons hc]

theorem Ends.slashed {rest : List Char} (h : Ends rest) : Ends (slashed rest) := by
  intro c t ht
  cases rest with
  | nil => exact nomatch ht
  | cons d r =>
    obtain ⟨u, hu⟩ := exists_slashed_cons d r
    obtain rfl : d = c := (List.cons.inj (hu.symm.trans ht)).1
    exact h d r rfl

/-- Reading the escape of a part gives the part; what is behind it is left over. -/
def Part.ReadSlashed (fuel depth : Nat) (t : List Char) : Part → Prop
  | .value j => t.length ≤ fuel → ∀ rest, Ends rest →
      value? fuel depth (slashed (t ++ rest)) = some (j, slashed rest)
  | .elements js => t.length < fuel → ∀ rest,
      elements? fuel depth (slashed (t ++ ']' :: rest)) = some (js, slashed rest)
  | .members ms => t.length < fuel → ∀ rest, members? fuel depth (slashed (t ++ '\x7d' :: rest)) =
      some (ms.map fun m => (some m.1, m.2), slashed rest)

/-- The escape of a string is read as the string. -/
theorem stringTail?_slashed_quote (k : String) (rest : List Char) :
    ∃ t, slashed ((quote k).toList ++ rest) = '"' :: t ∧
      stringTail? t = some (some k.toList, slashed rest) := by
  have hquote : (quote k).toList ++ rest = '"' :: (k.toList.flatMap escapeChar ++ '"' :: rest) := by
    rw [quote_toList]
    simp
  rw [hquote, slashed_cons (by decide)]
  exact ⟨_, rfl, stringTail?_slashed (stringTail?_flatMap k.toList rest)⟩

section Members

variable {fuel depth : Nat} {j : Json} {k : String} {rest u : List Char}

theorem members?_slashed_last (hj : value? fuel depth (slashed s) = some (j, r))
    (hr : skipGap r = '\x7d' :: rest) :
    members? (fuel + 1) depth (slashed ((quote k).toList ++ ':' :: s)) =
      some ([(some k, j)], rest) := by
  obtain ⟨t, ht, hread⟩ := stringTail?_slashed_quote k (':' :: s)
  rw [members?, ht, skipGap_cons rfl]
  simp [hread, slashed_cons, skipGap_cons, isGap, hj, hr]

theorem members?_slashed_more {ms : List (Option String × Json)}
    (hj : value? fuel depth (slashed s) = some (j, r)) (hr : skipGap r = ',' :: u)
    (hu : members? fuel depth u = some (ms, rest)) :
    members? (fuel + 1) depth (slashed ((quote k).toList ++ ':' :: s)) =
      some ((some k, j) :: ms, rest) := by
  obtain ⟨t, ht, hread⟩ := stringTail?_slashed_quote k (':' :: s)
  rw [members?, ht, skipGap_cons rfl]
  simp [hread, slashed_cons, skipGap_cons, isGap, hj, hr, hu]

end Members

/-- The escape of each spelling is read as what it spells. -/
theorem Spells.readSlashed {depth : Nat} {p : Part} {t : List Char} (h : Spells depth p t) :
    ∀ fuel, p.ReadSlashed fuel depth t := by
  intro fuel
  -- along the grammar, as for the text itself; only strings are changed by the escape
  induction h generalizing fuel with
  | nullWord | trueWord | falseWord =>
    intro hfuel rest hrest
    obtain ⟨fuel, rfl⟩ : ∃ m, fuel = m + 1 := ⟨fuel - 1, by simp at hfuel; omega⟩
    simp [slashed_cons, value?, skipGap, isGap, Text.isAsciiDigit, word?]
  | @nat depth n hn =>
    intro hfuel rest hrest
    rw [slashed_digits]
    have hnat : Spells depth (.value (.int (.ofNat n))) (Decimal.digitsOf n) := .nat hn
    exact hnat.readBack fuel hfuel _ hrest.slashed
  | @neg depth n hn =>
    intro hfuel rest hrest
    rw [List.cons_append, slashed_cons (by decide), slashed_digits]
    have hneg : Spells depth (.value (.int (.negSucc n))) ('-' :: Decimal.digitsOf (n + 1)) :=
      .neg hn
    exact hneg.readBack fuel hfuel _ hrest.slashed
  | @str depth k =>
    intro hfuel rest _
    obtain ⟨t, ht, hread⟩ := stringTail?_slashed_quote k rest
    rw [quote_toList] at hfuel
    obtain ⟨fuel, rfl⟩ : ∃ m, fuel = m + 1 := ⟨fuel - 1, by simp at hfuel; omega⟩
    simp [ht, value?, skipGap_cons, isGap, hread, stringValue]
  | emptyArr | emptyObj =>
    intro hfuel rest _
    obtain ⟨fuel, rfl⟩ : ∃ m, fuel = m + 1 := ⟨fuel - 1, by simp at hfuel; omega⟩
    simp [slashed_cons, value?, skipGap, isGap, nested]
  | @arr depth js t h ih =>
    intro hfuel rest _
    obtain ⟨fuel, rfl⟩ : ∃ m, fuel = m + 1 := ⟨fuel - 1, by simp at hfuel; omega⟩
    have hread := ih fuel (by simp at hfuel; omega) rest
    rw [List.cons_append, List.append_assoc, List.singleton_append, slashed_cons (by decide),
      value?_arr fun r => ?_, hread]
    · rfl
    · rw [skipGap_slashed]
      exact slashed_ne_cons (by decide) (h.skipGap_elements _) r
  | @obj depth ms t h ih =>
    intro hfuel rest _
    obtain ⟨fuel, rfl⟩ : ∃ m, fuel = m + 1 := ⟨fuel - 1, by simp at hfuel; omega⟩
    have hread := ih fuel (by simp at hfuel; omega) rest
    rw [List.cons_append, List.append_assoc, List.singleton_append, slashed_cons (by decide),
      value?_obj fun r => ?_, hread, Option.map_some, objectValue_of_keys]
    rw [skipGap_slashed]
    exact slashed_ne_cons (by decide) (h.skipGap_members _) r
  | @lastElement depth j g t g' hg h hg' ih =>
    intro hfuel rest
    obtain ⟨fuel, rfl⟩ : ∃ m, fuel = m + 1 := ⟨fuel - 1, by omega⟩
    have hread := ih fuel (by simp at hfuel; omega) (g' ++ ']' :: rest)
      (.close hg' (.inl rfl) rest)
    rw [List.append_assoc, List.append_assoc, slashed_gap hg, elements?_gap hg]
    refine elements?_last hread ?_
    rw [slashed_gap hg', slashed_cons (by decide), skipGap_append hg', skipGap_cons rfl]
  | @element depth j js g t u hg h hu ih ihu =>
    intro hfuel rest
    obtain ⟨fuel, rfl⟩ : ∃ m, fuel = m + 1 := ⟨fuel - 1, by omega⟩
    have hread := ih fuel (by simp at hfuel; omega) (',' :: (u ++ ']' :: rest)) (.comma _)
    have hrest := ihu fuel (by simp at hfuel; omega) rest
    rw [List.append_assoc, List.append_assoc, slashed_gap hg, elements?_gap hg]
    refine elements?_more hread ?_ hrest
    rw [slashed_cons (by decide), skipGap_cons rfl]
  | @lastMember depth k j g g₁ t g' hg hg₁ h hg' ih =>
    intro hfuel rest
    obtain ⟨fuel, rfl⟩ : ∃ m, fuel = m + 1 := ⟨fuel - 1, by omega⟩
    have hread := ih fuel (by simp at hfuel; omega) (g' ++ '\x7d' :: rest)
      (.close hg' (.inr rfl) rest)
    rw [← value?_gap hg₁, ← slashed_gap hg₁] at hread
    rw [List.append_assoc, slashed_gap hg, members?_gap hg]
    simp only [List.append_assoc, List.cons_append]
    refine members?_slashed_last hread ?_
    rw [slashed_gap hg', slashed_cons (by decide), skipGap_append hg', skipGap_cons rfl]
  | @member depth k j ms g g₁ t u hg hg₁ h hu ih ihu =>
    intro hfuel rest
    obtain ⟨fuel, rfl⟩ : ∃ m, fuel = m + 1 := ⟨fuel - 1, by omega⟩
    have hread := ih fuel (by simp at hfuel; omega) (',' :: (u ++ '\x7d' :: rest)) (.comma _)
    have hrest := ihu fuel (by simp at hfuel; omega) rest
    rw [← value?_gap hg₁, ← slashed_gap hg₁] at hread
    rw [List.append_assoc, slashed_gap hg, members?_gap hg]
    simp only [List.append_assoc, List.cons_append]
    refine members?_slashed_more hread ?_ hrest
    rw [slashed_cons (by decide), skipGap_cons rfl]

/-- **A document means the same** when it is escaped. -/
theorem readDocument?_escapeRaw {j : Json} {text : String}
    (h : Spells depthLimit (.value j) text.toList) : readDocument? (escapeRaw text) = some j := by
  have hlen := length_le_slashed text.toList
  have hread := h.readSlashed (2 * (slashed text.toList).length + 2) (by omega) []
    (fun _ _ h => nomatch h)
  rw [List.append_nil] at hread
  rw [readDocument?, escapeRaw_eq, String.toList_ofList, hread]
  rfl

end Slashed

end Json

end LivePreview
