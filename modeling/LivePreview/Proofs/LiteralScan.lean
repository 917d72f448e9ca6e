import LivePreview.Candidates
import LivePreview.Proofs.ImportScan
/-!
# What the literal scan sees

The scan for quotes of one kind knows nothing but these quotes and backslashes. It goes from the
left: where it meets a quote, the text up to the next one is a quoted text, and it goes on behind
that. So a text in quotes is found if and only if the quotes in front of it belong to quoted texts
that end in front of it (`Paired`). A quote that is never closed ends the scan, as everything
behind it stands in its quotes.

The candidates are the words of what the three scans find (`mem_ofSource`).
-/
namespace LivePreview.Candidates

variable {q c : Char} {t pre text rest : List Char} {n offset : Nat}

/-! ## Quoted texts -/

/-- A text that may stand between two quotes: a quote in it stands behind a backslash, and each
backslash takes along a character of the text. -/
inductive Quotable (q : Char) : List Char → Prop
  | nil : Quotable q []
  | plain {c : Char} {t : List Char} : c ≠ q → c ≠ '\\' → Quotable q t → Quotable q (c :: t)
  | escape (c : Char) {t : List Char} : Quotable q t → Quotable q ('\\' :: c :: t)

/-- A text in which each quote belongs to a quoted text. -/
inductive Paired (q : Char) : List Char → Prop
  | nil : Paired q []
  | plain {c : Char} {t : List Char} : c ≠ q → Paired q t → Paired q (c :: t)
  | quoted {text t : List Char} : Quotable q text → Paired q t → Paired q (q :: (text ++ q :: t))

/-- Whether each backslash takes along a character of the text. -/
def escapesWithin : List Char → Bool
  | [] => true
  | ['\\'] => false
  | '\\' :: _ :: t => escapesWithin t
  | _ :: t => escapesWithin t

theorem Quotable.of_plain (h : ∀ c ∈ t, c ≠ q ∧ c ≠ '\\') : Quotable q t := by
  induction t with
  | nil => exact .nil
  | cons c t ih =>
    obtain ⟨hq, hb⟩ := h c List.mem_cons_self
    exact .plain hq hb (ih fun d hd => h d (List.mem_cons_of_mem c hd))

theorem Quotable.append {t u : List Char} (ht : Quotable q t) (hu : Quotable q u) :
    Quotable q (t ++ u) := by
  induction ht with
  | nil => exact hu
  | plain hq hb _ ih => exact .plain hq hb ih
  | escape c _ ih => exact .escape c ih

theorem Quotable.escapesWithin (h : Quotable q t) : escapesWithin t = true := by
  induction h with
  | nil => rfl
  | plain _ hb _ ih => simpa [Candidates.escapesWithin, hb] using ih
  | escape c _ ih => simpa [Candidates.escapesWithin] using ih

/-- Without a quote in it, a text may stand between quotes unless its end takes along the closing
one. -/
theorem Quotable.of_escapesWithin (h : ∀ c ∈ t, c ≠ q) (hw : Candidates.escapesWithin t = true) :
    Quotable q t := by
  fun_induction Candidates.escapesWithin t with
  | case1 => exact .nil
  | case2 => cases hw
  | case3 c t ih =>
    exact .escape c (ih (fun d hd => h d (by simp [hd])) hw)
  | case4 c t hlone hpair ih =>
    refine .plain (h c List.mem_cons_self) ?_ (ih (fun d hd => h d (by simp [hd])) hw)
    rintro rfl
    cases t with
    | nil => exact hlone rfl rfl
    | cons d t => exact hpair d t rfl rfl

theorem Paired.of_plain (h : ∀ c ∈ t, c ≠ q) : Paired q t := by
  induction t with
  | nil => exact .nil
  | cons c t ih =>
    exact .plain (h c List.mem_cons_self) (ih fun d hd => h d (List.mem_cons_of_mem c hd))

theorem Paired.append {t u : List Char} (ht : Paired q t) (hu : Paired q u) :
    Paired q (t ++ u) := by
  induction ht with
  | nil => exact hu
  | plain hc _ ih => exact .plain hc ih
  | quoted htext _ ih =>
    rw [List.cons_append, List.append_assoc, List.cons_append]
    exact .quoted htext ih

/-! ## The scan for one kind of quotes -/

theorem literalBody?_quote : literalBody? q (q :: t) = some [] := by
  rw [literalBody?.eq_def]
  simp

theorem literalBody?_plain (hc : c ≠ q) (hb : c ≠ '\\') :
    literalBody? q (c :: t) = (literalBody? q t).map (c :: ·) := by
  rw [literalBody?.eq_def]
  simp [hc, hb]

theorem literalBody?_escape (hq : q ≠ '\\') :
    literalBody? q ('\\' :: c :: t) = (literalBody? q t).map fun s => '\\' :: c :: s := by
  rw [literalBody?.eq_def]
  simp [hq.symm]

/-- **The text up to the closing quote.** It is the only text in front that may stand between
quotes and has the closing one behind it. -/
theorem literalBody?_eq_some (hq : q ≠ '\\') :
    literalBody? q t = some text ↔ ∃ rest, t = text ++ q :: rest ∧ Quotable q text := by
  constructor
  · intro h
    fun_induction literalBody? q t generalizing text with
    | case1 => cases h
    | case2 c r hc =>
      obtain rfl : [] = text := Option.some.inj h
      exact ⟨r, by simpa using hc, .nil⟩
    | case3 => cases h
    | case4 c hc hb d r ih =>
      obtain ⟨u, hu, rfl⟩ := Option.map_eq_some_iff.mp h
      obtain ⟨rest, rfl, hquotable⟩ := ih hu
      obtain rfl : c = '\\' := by simpa using hb
      exact ⟨rest, rfl, .escape d hquotable⟩
    | case5 c r hc hb ih =>
      obtain ⟨u, hu, rfl⟩ := Option.map_eq_some_iff.mp h
      obtain ⟨rest, rfl, hquotable⟩ := ih hu
      exact ⟨rest, rfl, .plain (by simpa using hc) (by simpa using hb) hquotable⟩
  · rintro ⟨rest, rfl, h⟩
    induction h with
    | nil => exact literalBody?_quote
    | plain hc hb _ ih =>
      rw [List.cons_append, literalBody?_plain hc hb, ih]
      rfl
    | escape c _ ih =>
      rw [List.cons_append, List.cons_append, literalBody?_escape hq, ih]
      rfl

/-- What is skipped is not looked at. -/
theorem literalsFrom_skip (k : Nat) :
    literalsFrom q k offset t = literalsFrom q 0 (offset + k) (t.drop k) := by
  induction t generalizing k offset with
  | nil => simp [literalsFrom]
  | cons c r ih =>
    cases k with
    | zero => rfl
    | succ k =>
      rw [literalsFrom, ih, List.drop_succ_cons]
      congr 1
      omega

theorem literalsFrom_plain (hc : c ≠ q) :
    literalsFrom q 0 offset (c :: t) = literalsFrom q 0 (offset + 1) t := by
  simp [literalsFrom, hc]

theorem literalsFrom_quoted (hq : q ≠ '\\') (h : Quotable q text) :
    literalsFrom q 0 offset (q :: (text ++ q :: rest)) =
      (offset, text) :: literalsFrom q 0 (offset + text.length + 2) rest := by
  have hbody : literalBody? q (text ++ q :: rest) = some text :=
    (literalBody?_eq_some hq).mpr ⟨rest, rfl, h⟩
  have hdrop : (text ++ q :: rest).drop (text.length + 1) = rest := by
    rw [← List.drop_drop, List.drop_left, List.drop_succ_cons, List.drop_zero]
  simp only [literalsFrom, beq_self_eq_true, if_true, hbody]
  rw [literalsFrom_skip, hdrop]
  congr 2
  omega

/-- Behind a quote that is never closed no quote is closed either. -/
theorem literalsFrom_unclosed (h : literalBody? q t = none) :
    literalsFrom q 0 offset t = [] := by
  fun_induction literalBody? q t generalizing offset with
  | case1 => rfl
  | case2 => cases h
  | case3 c hc hb => simp [literalsFrom, hc]
  | case4 c hc hb d r ih =>
    have hr : literalBody? q r = none := Option.map_eq_none_iff.mp h
    have hcq : c ≠ q := by simpa using hc
    rw [literalsFrom_plain hcq]
    -- the character behind the backslash may be a quote, but it is not closed either
    simp only [literalsFrom, hr, ite_self]
    exact ih hr
  | case5 c r hc hb ih =>
    have hcq : c ≠ q := by simpa using hc
    rw [literalsFrom_plain hcq]
    exact ih (Option.map_eq_none_iff.mp h)

theorem literalsFrom_open (h : literalBody? q t = none) :
    literalsFrom q 0 offset (q :: t) = [] := by
  simp only [literalsFrom, beq_self_eq_true, if_true, h]
  exact literalsFrom_unclosed h

/-- Behind a text whose quotes are paired, the scan starts anew. -/
theorem mem_literalsFrom_of_paired (hq : q ≠ '\\') (hpre : Paired q pre) (h : Quotable q text) :
    (offset + pre.length, text) ∈ literalsFrom q 0 offset (pre ++ q :: (text ++ q :: rest)) := by
  induction hpre generalizing offset with
  | nil =>
    rw [List.nil_append, literalsFrom_quoted hq h]
    exact List.mem_cons_self
  | @plain c t hc _ ih =>
    rw [List.cons_append, literalsFrom_plain hc, List.length_cons]
    have hplace : offset + (t.length + 1) = offset + 1 + t.length := by omega
    rw [hplace]
    exact ih
  | @quoted u t hu _ ih =>
    have hplace : offset + (q :: (u ++ q :: t)).length = offset + u.length + 2 + t.length := by
      simp only [List.length_cons, List.length_append]
      omega
    rw [hplace, List.cons_append, List.append_assoc, List.cons_append, literalsFrom_quoted hq hu]
    exact List.mem_cons_of_mem _ ih

theorem exists_of_mem_literalsFrom (hq : q ≠ '\\') (h : (n, text) ∈ literalsFrom q 0 offset t) :
    ∃ pre rest, t = pre ++ q :: (text ++ q :: rest) ∧ Paired q pre ∧ Quotable q text ∧
      n = offset + pre.length := by
  -- by the length of what is left, since behind a quoted text the scan goes on at its end
  induction hlength : t.length using Nat.strongRecOn generalizing t offset with
  | _ length ih =>
    subst hlength
    cases t with
    | nil => cases h
    | cons c r =>
      by_cases hc : c = q
      · subst hc
        cases hbody : literalBody? c r with
        | none =>
          rw [literalsFrom_open hbody] at h
          cases h
        | some u =>
          obtain ⟨rest, rfl, hu⟩ := (literalBody?_eq_some hq).mp hbody
          rw [literalsFrom_quoted hq hu] at h
          rcases List.mem_cons.mp h with heq | h
          · obtain ⟨rfl, rfl⟩ := Prod.mk.inj heq
            exact ⟨[], rest, rfl, .nil, hu, rfl⟩
          · have hshort : rest.length < (c :: (u ++ c :: rest)).length := by
              simp only [List.length_cons, List.length_append]
              omega
            obtain ⟨pre, rest', rfl, hpre, htext, rfl⟩ := ih rest.length hshort h rfl
            refine ⟨c :: (u ++ c :: pre), rest', by simp, .quoted hu hpre, htext, ?_⟩
            simp only [List.length_cons, List.length_append]
            omega
      · rw [literalsFrom_plain hc] at h
        obtain ⟨pre, rest, rfl, hpre, htext, rfl⟩ := ih r.length (by simp) h rfl
        refine ⟨c :: pre, rest, rfl, .plain hc hpre, htext, ?_⟩
        rw [List.length_cons]
        omega

/-- **What is found.** The scan finds the texts between quotes in front of which the quotes are
paired. -/
theorem mem_literalsFrom (hq : q ≠ '\\') :
    (n, text) ∈ literalsFrom q 0 offset t ↔
      ∃ pre rest, t = pre ++ q :: (text ++ q :: rest) ∧ Paired q pre ∧ Quotable q text ∧
        n = offset + pre.length := by
  constructor
  · exact exists_of_mem_literalsFrom hq
  · rintro ⟨pre, rest, rfl, hpre, htext, rfl⟩
    exact mem_literalsFrom_of_paired hq hpre htext

/-! ## The candidates -/

/-- The three kinds of quotes. -/
def quotes : List Char := ['\'', '"', Char.ofNat 96]

theorem ne_backslash_of_mem_quotes (hq : q ∈ quotes) : q ≠ '\\' := by
  rintro rfl
  exact absurd hq (by decide)

theorem mem_insertLiteral {l m : Nat × List Char} {ls : List (Nat × List Char)} :
    l ∈ insertLiteral m ls ↔ l = m ∨ l ∈ ls := by
  induction ls with
  | nil => simp [insertLiteral]
  | cons k r ih =>
    rw [insertLiteral]
    split
    · simp only [List.mem_cons, ih]
      constructor
      · rintro (h | h | h) <;> simp [h]
      · rintro (h | h | h) <;> simp [h]
    · simp only [List.mem_cons]

theorem mem_foldl_insertLiteral {l : Nat × List Char} {ls acc : List (Nat × List Char)} :
    l ∈ ls.foldl (fun acc l => insertLiteral l acc) acc ↔ l ∈ ls ∨ l ∈ acc := by
  induction ls generalizing acc with
  | nil => simp
  | cons m r ih =>
    rw [List.foldl_cons, ih, mem_insertLiteral, List.mem_cons]
    constructor
    · rintro (h | h | h) <;> simp [h]
    · rintro ((h | h) | h) <;> simp [h]

theorem mem_literals {source : List Char} :
    text ∈ literals source ↔ ∃ q ∈ quotes, ∃ n, (n, text) ∈ literalsFrom q 0 0 source := by
  simp only [literals, List.mem_map, mem_foldl_insertLiteral, List.not_mem_nil, or_false,
    List.mem_flatMap, Prod.exists, exists_eq_right]
  constructor
  · rintro ⟨n, q, hq, h⟩
    exact ⟨q, hq, n, h⟩
  · rintro ⟨q, hq, n, h⟩
    exact ⟨n, q, hq, h⟩

/-- **The candidates of a source** are the words of its quoted texts: of the texts between two
quotes in front of which the quotes of that kind are paired. -/
theorem mem_ofSource {source w : String} :
    w ∈ ofSource source ↔
      ∃ q ∈ quotes, ∃ pre text rest, source.toList = pre ++ q :: (text ++ q :: rest) ∧
        Paired q pre ∧ Quotable q text ∧ w ∈ Text.words (String.ofList text) := by
  simp only [ofSource, Script.ImportScan.mem_firsts, List.mem_flatMap, mem_literals]
  constructor
  · rintro ⟨text, ⟨q, hq, n, h⟩, hw⟩
    obtain ⟨pre, rest, hsource, hpre, htext, -⟩ :=
      (mem_literalsFrom (ne_backslash_of_mem_quotes hq)).mp h
    exact ⟨q, hq, pre, text, rest, hsource, hpre, htext, hw⟩
  · rintro ⟨q, hq, pre, text, rest, hsource, hpre, htext, hw⟩
    exact ⟨text, ⟨q, hq, pre.length, (mem_literalsFrom (ne_backslash_of_mem_quotes hq)).mpr
      ⟨pre, rest, hsource, hpre, htext, (Nat.zero_add _).symm⟩⟩, hw⟩

end LivePreview.Candidates
