import LivePreview.Script.ImportScan
/-!
# What the import scan sees

The scan is held against a description of what it looks for. A lead is what stands in front of a
specifier's opening quote: the word of a statement with its bindings and `from` (`StatementLead`),
or the word and the parenthesis of an import while running (`CallLead`). No lead holds a quote, so
the quoted text behind it is determined by the text, and a lead that starts inside another one leads
to the same specifier. All that can hide a specifier from the scan is therefore an earlier lead
whose quotes are still open (`InQuotes`), and for a statement that opens a line there is none.
-/
namespace LivePreview.Script.ImportScan

variable {s t u rest : List Char} {n offset stop skip : Nat} {a : Bool} {f : Found}

/-! ## Quoted texts -/

/-- A text that starts with a specifier between quotes, and what follows them. -/
inductive Quoted : List Char → List Char → List Char → Prop
  | intro {q q' : Char} {s rest : List Char} : isQuote q = true → isQuote q' = true → s ≠ [] →
      (∀ c ∈ s, isQuote c = false ∧ c ≠ '\n') → Quoted (q :: (s ++ q' :: rest)) s rest

theorem isQuote_iff {c : Char} : isQuote c = true ↔ c = '"' ∨ c = '\'' := by
  simp [isQuote]

theorem takeWhile_append_cons {p : Char → Bool} {c : Char} (hs : ∀ d ∈ s, p d = true)
    (hc : p c = false) : (s ++ c :: rest).takeWhile p = s := by
  rw [List.takeWhile_append_of_pos hs, List.takeWhile_cons_of_neg (by simp [hc]), List.append_nil]

/-- A quoted text in front is found, and nothing else is. -/
theorem quotedText?_eq_some : quotedText? t = some (s, n) ↔
    n = s.length + 2 ∧ ∃ rest, Quoted t s rest := by
  constructor
  · intro h
    cases t with
    | nil => cases h
    | cons q r =>
      have hsplit :=
        List.takeWhile_append_dropWhile (p := fun c => !isQuote c && c != '\n') (l := r)
      have hplain := List.all_eq_true.mp
        (List.all_takeWhile (p := fun c => !isQuote c && c != '\n') (l := r))
      dsimp only [quotedText?] at h
      generalize r.takeWhile (fun c => !isQuote c && c != '\n') = body at h hsplit hplain
      generalize r.dropWhile (fun c => !isQuote c && c != '\n') = tail at hsplit
      subst hsplit
      rw [List.drop_left] at h
      cases tail with
      | nil => simp at h
      | cons q' rest =>
        simp only [Option.ite_none_right_eq_some, Bool.and_eq_true, decide_eq_true_eq,
          Option.some.injEq, Prod.mk.injEq] at h
        obtain ⟨⟨⟨hq, hbody⟩, hq'⟩, rfl, rfl⟩ := h
        exact ⟨rfl, rest, .intro hq hq' hbody fun c hc => by simpa using hplain c hc⟩
  · rintro ⟨rfl, rest, h⟩
    cases h with
    | @intro q q' _ _ hq hq' hs hplain =>
      have hbody : (s ++ q' :: rest).takeWhile (fun c => !isQuote c && c != '\n') = s :=
        takeWhile_append_cons (fun c hc => by simp [hplain c hc]) (by simp [hq'])
      simp [quotedText?, hbody, hq, hq', hs]

theorem Quoted.drop (h : Quoted t s rest) : t.drop (s.length + 2) = rest := by
  obtain ⟨-, -, -, -⟩ := h
  simp

/-- A text that starts with a quoted one starts with a quote. -/
theorem Quoted.exists_cons (h : Quoted t s rest) : ∃ q r, t = q :: r ∧ isQuote q = true := by
  obtain ⟨hq, -, -, -⟩ := h
  exact ⟨_, _, rfl, hq⟩

theorem Quoted.unique {s' rest' : List Char} (h : Quoted t s rest) (h' : Quoted t s' rest') :
    s = s' := by
  have hs := quotedText?_eq_some.mpr ⟨rfl, rest, h⟩
  have hs' := quotedText?_eq_some.mpr ⟨rfl, rest', h'⟩
  rw [hs] at hs'
  exact (Prod.mk.inj (Option.some.inj hs')).1

/-- Behind texts without quotes, the quoted text is determined by the whole. -/
theorem quoted_unique {a b s' rest' : List Char} (heq : a ++ t = b ++ u)
    (ha : ∀ c ∈ a, isQuote c = false) (hb : ∀ c ∈ b, isQuote c = false)
    (ht : Quoted t s rest) (hu : Quoted u s' rest') : a = b ∧ s = s' := by
  obtain ⟨q, r, rfl, hq⟩ := ht.exists_cons
  obtain ⟨q', r', rfl, hq'⟩ := hu.exists_cons
  have htake := congrArg (List.takeWhile fun c => !isQuote c) heq
  rw [takeWhile_append_cons (fun c hc => by simp [ha c hc]) (by simp [hq]),
    takeWhile_append_cons (fun c hc => by simp [hb c hc]) (by simp [hq'])] at htake
  subst htake
  rw [List.append_cancel_left heq] at ht
  exact ⟨rfl, ht.unique hu⟩

/-! ## Leads -/

/-- A property of the character in front of a place, if only the text before it is known; `a` is the
answer if that is empty. -/
def before (p : Char → Bool) (a : Bool) (text : List Char) : Bool :=
  (text.getLast?.map p).getD a

theorem before_nil {p : Char → Bool} : before p a [] = a := rfl

theorem before_cons {p : Char → Bool} {c : Char} : before p a (c :: t) = before p (p c) t := by
  cases t with
  | nil => rfl
  | cons d r => rw [before, before, List.getLast?_cons_cons, List.getLast?_cons]; rfl

/-- What may stand between the word of a statement and the specifier: nothing, or bindings and
`from`. -/
inductive Clause : List Char → Prop
  | none : Clause []
  | source {bindings blanks : List Char} : (∀ c ∈ bindings, isBindingChar c = true) →
      before Text.isWord false bindings = false → (∀ c ∈ blanks, Text.isBlank c = true) →
      Clause (bindings ++ (['f', 'r', 'o', 'm'] ++ blanks))

/-- The words of the statements that may name a specifier. -/
def IsWord (word : List Char) : Prop :=
  word = ['i', 'm', 'p', 'o', 'r', 't'] ∨ word = ['e', 'x', 'p', 'o', 'r', 't']

/-- What stands in front of a specifier in a statement: the word, with white space behind it, and a
clause. -/
inductive Lead : List Char → Prop
  | intro {indent word blanks clause : List Char} : (∀ c ∈ indent, c = ' ' ∨ c = '\t') →
      IsWord word → blanks ≠ [] → (∀ c ∈ blanks, Text.isBlank c = true) → Clause clause →
      Lead (indent ++ (word ++ (blanks ++ clause)))

/-- What stands in front of a statement's specifier behind some text: the statement opens a line, or
follows a semicolon. -/
inductive StatementLead (text : List Char) : List Char → Prop
  | line {lead : List Char} : before (· == '\n') true text = true → Lead lead →
      StatementLead text lead
  | semicolon {lead : List Char} : Lead lead → StatementLead text (';' :: lead)

/-- What stands in front of the specifier of an import while running. -/
inductive CallLead (text : List Char) : List Char → Prop
  | intro {a b : List Char} : before Text.isWord false text = false →
      (∀ c ∈ a, Text.isBlank c = true) → (∀ c ∈ b, Text.isBlank c = true) →
      CallLead text (['i', 'm', 'p', 'o', 'r', 't'] ++ (a ++ '(' :: b))

theorem isQuote_of_isBlank {c : Char} (h : Text.isBlank c = true) : isQuote c = false := by
  cases hq : isQuote c with
  | false => rfl
  | true => rcases isQuote_iff.mp hq with rfl | rfl <;> exact absurd h (by decide)

theorem isQuote_of_isBindingChar {c : Char} (h : isBindingChar c = true) : isQuote c = false := by
  cases hq : isQuote c with
  | false => rfl
  | true => rcases isQuote_iff.mp hq with rfl | rfl <;> exact absurd h (by decide)

theorem isQuote_of_all (h : (t.all fun c => !isQuote c) = true) : ∀ c ∈ t, isQuote c = false := by
  simpa using h

theorem Clause.isQuote (h : Clause t) : ∀ c ∈ t, isQuote c = false := by
  cases h with
  | none => simp
  | source hb _ hs =>
    intro c hc
    rcases List.mem_append.mp hc with hc | hc
    · exact isQuote_of_isBindingChar (hb c hc)
    · rcases List.mem_append.mp hc with hc | hc
      · exact isQuote_of_all (by decide) c hc
      · exact isQuote_of_isBlank (hs c hc)

theorem Lead.isQuote (h : Lead t) : ∀ c ∈ t, isQuote c = false := by
  obtain ⟨hindent, hword, -, hblanks, hclause⟩ := h
  intro c hc
  simp only [List.mem_append] at hc
  rcases hc with hc | hc | hc | hc
  · rcases hindent c hc with rfl | rfl <;> rfl
  · rcases hword with rfl | rfl <;> exact isQuote_of_all (by decide) c hc
  · exact isQuote_of_isBlank (hblanks c hc)
  · exact hclause.isQuote c hc

theorem StatementLead.isQuote (h : StatementLead u t) : ∀ c ∈ t, isQuote c = false := by
  cases h with
  | line _ hl => exact hl.isQuote
  | semicolon hl =>
    intro c hc
    rcases List.mem_cons.mp hc with rfl | hc
    · rfl
    · exact hl.isQuote c hc

theorem CallLead.isQuote (h : CallLead u t) : ∀ c ∈ t, isQuote c = false := by
  obtain ⟨-, ha, hb⟩ := h
  intro c hc
  simp only [List.mem_append, List.mem_cons (a := c) (b := '(')] at hc
  rcases hc with hc | hc | rfl | hc
  · exact isQuote_of_all (by decide) c hc
  · exact isQuote_of_isBlank (ha c hc)
  · rfl
  · exact isQuote_of_isBlank (hb c hc)

/-! ## One statement -/

theorem dropBlanks_eq (t : List Char) : ∃ blanks, (∀ c ∈ blanks, Text.isBlank c = true) ∧
    dropBlanks t = (blanks.length, t.drop blanks.length) ∧ t = blanks ++ t.drop blanks.length := by
  refine ⟨t.takeWhile Text.isBlank, ?_, rfl, ?_⟩
  · exact List.all_eq_true.mp List.all_takeWhile
  · exact (List.prefix_iff_eq_append.mp (List.takeWhile_prefix _)).symm

theorem dropBlanks_append_cons {blanks : List Char} {c : Char}
    (hb : ∀ d ∈ blanks, Text.isBlank d = true) (hc : Text.isBlank c = false) :
    dropBlanks (blanks ++ c :: t) = (blanks.length, c :: t) := by
  simp [dropBlanks, takeWhile_append_cons hb hc]

/-- A quote is no blank. -/
theorem Quoted.dropBlanks {blanks : List Char} (h : Quoted t s rest)
    (hb : ∀ d ∈ blanks, Text.isBlank d = true) :
    dropBlanks (blanks ++ t) = (blanks.length, t) := by
  obtain ⟨q, r, rfl, hq⟩ := h.exists_cons
  refine dropBlanks_append_cons hb ?_
  cases hblank : Text.isBlank q with
  | false => rfl
  | true => rw [isQuote_of_isBlank hblank] at hq; cases hq

/-- What is found behind a lead. -/
structure FoundBehind (lead t : List Char) (offset : Nat) (f : Found) (stop : Nat) : Prop where
  quoted : ∃ rest, Quoted t f.specifier rest
  start : f.start = offset + lead.length + 1
  stop : stop = offset + lead.length + f.specifier.length + 2

/-- What is found behind a `from` has only bindings in front of that. -/
theorem afterFrom?_sound (h : afterFrom? offset a t = some (f, stop)) :
    ∃ bindings blanks u, t = bindings ++ (['f', 'r', 'o', 'm'] ++ (blanks ++ u)) ∧
      (∀ c ∈ bindings, isBindingChar c = true) ∧ before Text.isWord a bindings = false ∧
      (∀ c ∈ blanks, Text.isBlank c = true) ∧
      FoundBehind (bindings ++ (['f', 'r', 'o', 'm'] ++ blanks)) u offset f stop := by
  induction t generalizing offset a with
  | nil => cases h
  | cons c r ih =>
    rw [afterFrom?] at h
    dsimp only at h
    split at h
    · rename_i found hhere
      cases h
      split at hhere
      · cases hhere
      · rename_i ha
        split at hhere
        · rename_i rest hrest
          obtain ⟨⟨s, k⟩, hquoted, hfound⟩ := Option.map_eq_some_iff.mp hhere
          obtain ⟨blanks, hblanks, hdrop, hsplit⟩ := dropBlanks_eq rest
          rw [hdrop] at hquoted hfound
          obtain ⟨rfl, rest', hq⟩ := quotedText?_eq_some.mp hquoted
          cases hfound
          refine ⟨[], blanks, rest.drop blanks.length, ?_, by simp, by simpa [before_nil] using ha,
            hblanks, ⟨rest', hq⟩, ?_, ?_⟩
          · rw [List.nil_append, ← hsplit]
            exact Text.afterChars?_eq_some.mp hrest
          · simp
            omega
          · simp
            omega
        · cases hhere
    · split at h
      · rename_i hbinding
        obtain ⟨bindings, blanks, u, rfl, hall, hbefore, hblanks, hfound⟩ := ih h
        refine ⟨c :: bindings, blanks, u, rfl, ?_, by rwa [before_cons], hblanks, hfound.quoted,
          ?_, ?_⟩
        · intro d hd
          rcases List.mem_cons.mp hd with rfl | hd
          · exact hbinding
          · exact hall d hd
        · rw [hfound.start]
          simp
          omega
        · rw [hfound.stop]
          simp
          omega
      · cases h

/-- Behind bindings and `from` something is found. -/
theorem afterFrom?_isSome (offset : Nat) {bindings blanks : List Char}
    (hb : ∀ c ∈ bindings, isBindingChar c = true) (hbefore : before Text.isWord a bindings = false)
    (hs : ∀ c ∈ blanks, Text.isBlank c = true) (ht : Quoted t s rest) :
    (afterFrom? offset a (bindings ++ (['f', 'r', 'o', 'm'] ++ (blanks ++ t)))).isSome = true := by
  induction bindings generalizing offset a with
  | nil =>
    have ha : a = false := hbefore
    have hchars : Text.afterChars? ['f', 'r', 'o', 'm'] (['f', 'r', 'o', 'm'] ++ (blanks ++ t)) =
        some (blanks ++ t) := Text.afterChars?_eq_some.mpr rfl
    simp only [List.cons_append, List.nil_append] at hchars
    simp [afterFrom?, ha, hchars, ht.dropBlanks hs, quotedText?_eq_some.mpr ⟨rfl, rest, ht⟩]
  | cons c bindings ih =>
    rw [before_cons] at hbefore
    rw [List.cons_append, afterFrom?]
    dsimp only
    split
    · rfl
    · rw [if_pos (hb c (by simp))]
      exact ih (offset + 1) (fun d hd => hb d (by simp [hd])) hbefore

theorem IsWord.length {word : List Char} (h : IsWord word) : word.length = 6 := by
  rcases h with rfl | rfl <;> rfl

theorem IsWord.afterChars? {word : List Char} (h : IsWord word) (r : List Char) :
    (Text.afterChars? ['i', 'm', 'p', 'o', 'r', 't'] (word ++ r) <|>
      Text.afterChars? ['e', 'x', 'p', 'o', 'r', 't'] (word ++ r)) = some r := by
  rcases h with rfl | rfl <;> simp [Text.afterChars?]

theorem exists_word {r : List Char}
    (h : (Text.afterChars? ['i', 'm', 'p', 'o', 'r', 't'] t <|>
      Text.afterChars? ['e', 'x', 'p', 'o', 'r', 't'] t) = some r) :
    ∃ word, IsWord word ∧ t = word ++ r := by
  rw [Option.orElse_eq_orElse, Option.orElse_eq_or, Option.or_eq_some_iff] at h
  rcases h with h | ⟨-, h⟩
  · exact ⟨_, Or.inl rfl, Text.afterChars?_eq_some.mp h⟩
  · exact ⟨_, Or.inr rfl, Text.afterChars?_eq_some.mp h⟩

/-- What is found in a statement stands behind a lead. -/
theorem statement?_sound (h : statement? offset t = some (f, stop)) :
    ∃ lead u, t = lead ++ u ∧ Lead lead ∧ FoundBehind lead u offset f stop := by
  have hindent : ∀ c ∈ t.takeWhile (fun c => c == ' ' || c == '\t'), c = ' ' ∨ c = '\t' := by
    intro c hc
    simpa using List.all_eq_true.mp List.all_takeWhile c hc
  have hsplit := List.prefix_iff_eq_append.mp
    (List.takeWhile_prefix (l := t) fun c => c == ' ' || c == '\t')
  dsimp only [statement?] at h
  generalize t.takeWhile (fun c => c == ' ' || c == '\t') = indent at h hindent hsplit
  split at h
  · cases h
  · rename_i rest hrest
    obtain ⟨word, hword, hrest⟩ := exists_word hrest
    have hlength := hword.length
    obtain ⟨blanks, hblanks, hdrop, hrest'⟩ := dropBlanks_eq rest
    rw [hdrop] at h
    dsimp only at h
    split at h
    · cases h
    · rename_i hne
      have hne : blanks ≠ [] := fun hb => hne (by simp [hb])
      have ht : t = indent ++ (word ++ (blanks ++ rest.drop blanks.length)) := by
        rw [← hrest', ← hrest, hsplit]
      split at h
      · rename_i hfrom
        cases h
        obtain ⟨bindings, blanks', u, hu, hall, hbefore, hblanks', hfound⟩ := afterFrom?_sound hfrom
        refine ⟨indent ++ (word ++ (blanks ++ (bindings ++ (['f', 'r', 'o', 'm'] ++ blanks')))), u,
          by rw [ht, hu]; simp, .intro hindent hword hne hblanks (.source hall hbefore hblanks'),
          hfound.quoted, ?_, ?_⟩
        · rw [hfound.start]
          simp only [List.length_append, hlength]
          omega
        · rw [hfound.stop]
          simp only [List.length_append, hlength]
          omega
      · obtain ⟨⟨s, k⟩, hquoted, hfound⟩ := Option.map_eq_some_iff.mp h
        obtain ⟨rfl, rest', hq⟩ := quotedText?_eq_some.mp hquoted
        cases hfound
        refine ⟨indent ++ (word ++ (blanks ++ [])), rest.drop blanks.length, by rw [ht]; simp,
          .intro hindent hword hne hblanks .none, ⟨rest', hq⟩, ?_, ?_⟩
        · simp only [List.length_append, hlength, List.length_nil]
          omega
        · simp only [List.length_append, hlength, List.length_nil]
          omega

/-- Bindings without the blanks in front of them. -/
theorem exists_bindings {bindings : List Char} (hb : ∀ c ∈ bindings, isBindingChar c = true)
    (hbefore : before Text.isWord false bindings = false) :
    ∃ blanks tail, bindings = blanks ++ tail ∧ (∀ c ∈ blanks, Text.isBlank c = true) ∧
      (∀ c ∈ tail, isBindingChar c = true) ∧ before Text.isWord false tail = false ∧
      ∀ c r, tail = c :: r → Text.isBlank c = false := by
  induction bindings with
  | nil => exact ⟨[], [], rfl, by simp, by simp, rfl, by simp⟩
  | cons c r ih =>
    cases hc : Text.isBlank c with
    | false => exact ⟨[], c :: r, rfl, by simp, hb, hbefore, fun d q hd => by cases hd; exact hc⟩
    | true =>
      have hr : before Text.isWord false r = false := by
        cases r with
        | nil => rfl
        | cons d r =>
          rw [before_cons, before_cons] at hbefore
          rwa [before_cons]
      obtain ⟨blanks, tail, rfl, hblanks, htail⟩ := ih (fun d hd => hb d (by simp [hd])) hr
      refine ⟨c :: blanks, tail, rfl, ?_, htail⟩
      intro d hd
      rcases List.mem_cons.mp hd with rfl | hd
      · exact hc
      · exact hblanks d hd

/-- Behind the word of a statement all blanks are dropped, with those that its bindings start with. -/
theorem exists_dropBlanks {blanks bindings blanks' : List Char}
    (hblanks : ∀ c ∈ blanks, Text.isBlank c = true)
    (hb : ∀ c ∈ bindings, isBindingChar c = true)
    (hbefore : before Text.isWord false bindings = false) :
    ∃ more tail, dropBlanks (blanks ++ (bindings ++ (['f', 'r', 'o', 'm'] ++ blanks')) ++ t) =
        ((blanks ++ more).length, tail ++ (['f', 'r', 'o', 'm'] ++ (blanks' ++ t))) ∧
      (∀ c ∈ tail, isBindingChar c = true) ∧ before Text.isWord false tail = false := by
  obtain ⟨more, tail, rfl, hmore, htail, hbefore, hhead⟩ := exists_bindings hb hbefore
  have hall : ∀ c ∈ blanks ++ more, Text.isBlank c = true := by
    intro c hc
    rcases List.mem_append.mp hc with hc | hc
    · exact hblanks c hc
    · exact hmore c hc
  refine ⟨more, tail, ?_, htail, hbefore⟩
  cases tail with
  | nil =>
    have h := dropBlanks_append_cons (t := 'r' :: 'o' :: 'm' :: (blanks' ++ t)) hall
      (by decide : Text.isBlank 'f' = false)
    simpa using h
  | cons c r =>
    have h := dropBlanks_append_cons (t := r ++ (['f', 'r', 'o', 'm'] ++ (blanks' ++ t))) hall
      (hhead c r rfl)
    simpa using h

/-- Behind a lead something is found in a statement. -/
theorem statement?_isSome (offset : Nat) {lead : List Char} (hl : Lead lead)
    (ht : Quoted t s rest) :
    (statement? offset (lead ++ t)).isSome = true := by
  cases hl with
  | @intro indent word blanks clause hindent hword hne hblanks hclause =>
    have htake : (indent ++ (word ++ (blanks ++ clause)) ++ t).takeWhile
        (fun c => c == ' ' || c == '\t') = indent := by
      rcases hword with rfl | rfl <;> simp only [List.append_assoc, List.cons_append] <;>
        exact takeWhile_append_cons (fun c hc => by simpa using hindent c hc) rfl
    dsimp only [statement?]
    rw [htake, List.append_assoc, List.drop_left, List.append_assoc, hword.afterChars?]
    dsimp only
    have hlength : ∀ b : List Char, (blanks ++ b).length ≠ 0 := by
      intro b
      have := List.length_pos_iff.mpr hne
      rw [List.length_append]
      omega
    cases hclause with
    | none =>
      have hdrop := ht.dropBlanks hblanks
      rw [List.append_nil, hdrop]
      dsimp only
      rw [if_neg (by simpa using hlength [])]
      split
      · rfl
      · simp [quotedText?_eq_some.mpr ⟨rfl, rest, ht⟩]
    | @source bindings blanks' hb hbefore hblanks' =>
      obtain ⟨more, tail, hdrop, htail, hbefore⟩ := exists_dropBlanks hblanks hb hbefore
      rw [hdrop]
      dsimp only
      rw [if_neg (hlength more)]
      split
      · rfl
      · rename_i hnone
        have hsome := afterFrom?_isSome (offset + indent.length + 6 +
          (blanks ++ more).length) htail hbefore hblanks' ht
        rw [hnone] at hsome
        cases hsome

/-- What is found where a statement may start, which is what the scan tries at each place. -/
def opening? (offset : Nat) (lineStart : Bool) : List Char → Option (Found × Nat)
  | [] => none
  | c :: r =>
    (if lineStart then statement? offset (c :: r) else none) <|>
      (if c == ';' then statement? (offset + 1) r else none)

theorem opening?_sound (h : opening? offset (before (· == '\n') true u) t = some (f, stop)) :
    ∃ lead v, t = lead ++ v ∧ StatementLead u lead ∧ FoundBehind lead v offset f stop := by
  cases t with
  | nil => cases h
  | cons c r =>
    rw [opening?, Option.orElse_eq_orElse, Option.orElse_eq_or, Option.or_eq_some_iff] at h
    rcases h with h | ⟨-, h⟩
    · split at h
      · rename_i hline
        obtain ⟨lead, v, ht, hlead, hfound⟩ := statement?_sound h
        exact ⟨lead, v, ht, .line hline hlead, hfound⟩
      · cases h
    · split at h
      · rename_i hc
        obtain ⟨lead, v, rfl, hlead, hfound⟩ := statement?_sound h
        obtain rfl := eq_of_beq hc
        refine ⟨';' :: lead, v, rfl, .semicolon hlead, hfound.quoted, ?_, ?_⟩
        · rw [hfound.start]
          simp
          omega
        · rw [hfound.stop]
          simp
          omega
      · cases h

theorem opening?_isSome (offset : Nat) {lead : List Char} (hl : StatementLead u lead)
    (ht : Quoted t s rest) :
    (opening? offset (before (· == '\n') true u) (lead ++ t)).isSome = true := by
  obtain ⟨q, r, hqr, -⟩ := ht.exists_cons
  cases hl with
  | line hline hlead =>
    have hsome := statement?_isSome offset hlead ht
    have hcons : ∃ c r, lead ++ t = c :: r := by
      rw [hqr]
      cases lead <;> exact ⟨_, _, rfl⟩
    obtain ⟨c, r, hcr⟩ := hcons
    rw [hcr] at hsome ⊢
    obtain ⟨x, hx⟩ := Option.isSome_iff_exists.mp hsome
    simp [opening?, hline, hx]
  | @semicolon lead hlead =>
    have hsome := statement?_isSome (offset + 1) hlead ht
    obtain ⟨x, hx⟩ := Option.isSome_iff_exists.mp hsome
    simp [opening?, hx]

/-- Behind a lead the specifier that follows is found. -/
theorem opening?_eq_some (offset : Nat) {lead : List Char} (hl : StatementLead u lead)
    (ht : Quoted t s rest) :
    opening? offset (before (· == '\n') true u) (lead ++ t) =
      some (⟨offset + lead.length + 1, s⟩, offset + lead.length + s.length + 2) := by
  obtain ⟨⟨⟨start, s'⟩, stop⟩, hsome⟩ := Option.isSome_iff_exists.mp
    (opening?_isSome offset hl ht)
  obtain ⟨lead', v, hv, hl', ⟨rest', hq⟩, rfl, rfl⟩ := opening?_sound hsome
  obtain ⟨rfl, rfl⟩ := quoted_unique hv hl.isQuote hl'.isQuote ht hq
  exact hsome

/-! ## One import while running -/

theorem call?_sound (h : call? offset t = some (f, stop))
    (hu : before Text.isWord false u = false) :
    ∃ lead v blanks tail, t = lead ++ v ∧ CallLead u lead ∧
      Quoted v f.specifier (blanks ++ ')' :: tail) ∧ ∀ c ∈ blanks, Text.isBlank c = true := by
  simp only [call?, Option.bind_eq_bind, Option.bind_eq_some_iff] at h
  obtain ⟨rest, hrest, rest', hrest', ⟨s, k⟩, hquoted, closed, hclosed, hfound⟩ := h
  obtain ⟨a, ha, hdropa, hsplita⟩ := dropBlanks_eq rest
  obtain ⟨b, hb, hdropb, hsplitb⟩ := dropBlanks_eq rest'
  rw [hdropa] at hrest'
  rw [hdropb] at hquoted hclosed
  have hopen : rest.drop a.length = '(' :: rest' := Text.afterChars?_eq_some.mp hrest'
  obtain ⟨rfl, r, hq⟩ := quotedText?_eq_some.mp hquoted
  obtain ⟨l, hl, hdropl, hsplitl⟩ := dropBlanks_eq r
  simp only [hq.drop, hdropl] at hclosed
  have hclose : r.drop l.length = ')' :: closed := Text.afterChars?_eq_some.mp hclosed
  cases hfound
  refine ⟨['i', 'm', 'p', 'o', 'r', 't'] ++ (a ++ '(' :: b), rest'.drop b.length, l, closed, ?_,
    .intro hu ha hb, by rwa [← hclose, ← hsplitl], hl⟩
  have htext : t = ['i', 'm', 'p', 'o', 'r', 't'] ++ (a ++ '(' :: rest') := by
    rw [← hopen, ← hsplita]
    exact Text.afterChars?_eq_some.mp hrest
  simp only [List.append_assoc, List.cons_append, ← hsplitb]
  exact htext

/-- Behind a lead the specifier that follows is found, if the parenthesis is closed behind it. -/
theorem call?_eq_some (offset : Nat) {lead blanks tail : List Char} (hl : CallLead u lead)
    (ht : Quoted t s (blanks ++ ')' :: tail)) (hb : ∀ c ∈ blanks, Text.isBlank c = true) :
    call? offset (lead ++ t) =
      some (⟨offset + lead.length + 1, s⟩,
        offset + lead.length + s.length + 2 + blanks.length + 1) := by
  cases hl with
  | @intro a b hu ha hb' =>
    have htext : ['i', 'm', 'p', 'o', 'r', 't'] ++ (a ++ '(' :: b) ++ t =
        ['i', 'm', 'p', 'o', 'r', 't'] ++ (a ++ '(' :: (b ++ t)) := by simp
    have hword : Text.afterChars? ['i', 'm', 'p', 'o', 'r', 't']
        (['i', 'm', 'p', 'o', 'r', 't'] ++ (a ++ '(' :: (b ++ t))) = some (a ++ '(' :: (b ++ t)) :=
      Text.afterChars?_eq_some.mpr rfl
    have hopen : Text.afterChars? ['('] ('(' :: (b ++ t)) = some (b ++ t) :=
      Text.afterChars?_eq_some.mpr rfl
    have hclose : Text.afterChars? [')'] (')' :: tail) = some tail :=
      Text.afterChars?_eq_some.mpr rfl
    have hbefore : dropBlanks (a ++ '(' :: (b ++ t)) = (a.length, '(' :: (b ++ t)) :=
      dropBlanks_append_cons ha (by decide)
    have hbehind : dropBlanks (blanks ++ ')' :: tail) = (blanks.length, ')' :: tail) :=
      dropBlanks_append_cons hb (by decide)
    have hquoted := quotedText?_eq_some.mpr ⟨rfl, _, ht⟩
    rw [htext, call?]
    simp only [Option.bind_eq_bind, hword, Option.bind_some, hbefore, hopen, ht.dropBlanks hb',
      hquoted, ht.drop, hbehind, hclose, List.length_append, List.length_cons, List.length_nil]
    refine congrArg some (Prod.ext (congrArg (Found.mk · s) ?_) ?_)
    · show offset + 6 + a.length + 1 + b.length + 1 = _
      omega
    · show offset + 6 + a.length + 1 + b.length + (s.length + 2) + blanks.length + 1 = _
      omega

/-! ## Scanning -/

/-- Tries something at each place that no earlier find covers; `flag` tells it about the character
in front. -/
def scan (start? : Nat → Bool → List Char → Option (Found × Nat)) (flag : Char → Bool) :
    Nat → Nat → Bool → List Char → List Found
  | _, _, _, [] => []
  | k + 1, offset, _, c :: r => scan start? flag k (offset + 1) (flag c) r
  | 0, offset, a, c :: r =>
    match start? offset a (c :: r) with
    | some (found, stop) =>
      found :: scan start? flag (stop - offset - 1) (offset + 1) (flag c) r
    | none => scan start? flag 0 (offset + 1) (flag c) r

/-- A find at some place of a text. -/
def tryCall (offset : Nat) (inWord : Bool) (t : List Char) : Option (Found × Nat) :=
  if inWord then none else call? offset t

theorem statementsFrom_eq_scan :
    statementsFrom skip offset a t = scan opening? (· == '\n') skip offset a t := by
  induction t generalizing skip offset a with
  | nil => cases skip <;> rfl
  | cons c r ih =>
    cases skip with
    | succ k => exact ih
    | zero =>
      have hopening : opening? offset a (c :: r) =
          ((if a then statement? offset (c :: r) else none) <|>
            if c == ';' then statement? (offset + 1) r else none) := rfl
      simp only [statementsFrom, scan]
      rw [← hopening]
      generalize opening? offset a (c :: r) = here
      rcases here with - | ⟨found, stop⟩
      · exact ih
      · exact congrArg (found :: ·) ih

theorem callsFrom_eq_scan :
    callsFrom skip offset a t = scan tryCall Text.isWord skip offset a t := by
  induction t generalizing skip offset a with
  | nil => cases skip <;> rfl
  | cons c r ih =>
    cases skip with
    | succ k => exact ih
    | zero =>
      have hcall : tryCall offset a (c :: r) = if a then none else call? offset (c :: r) := rfl
      simp only [callsFrom, scan]
      rw [← hcall]
      generalize tryCall offset a (c :: r) = here
      rcases here with - | ⟨found, stop⟩
      · exact ih
      · exact congrArg (found :: ·) ih

section Scan

variable {start? : Nat → Bool → List Char → Option (Found × Nat)} {flag : Char → Bool}
  {pre : List Char} {c : Char}

/-- Whatever is found was there to be found. -/
theorem exists_of_mem_scan (h : f ∈ scan start? flag skip offset a t) :
    ∃ pre v stop, t = pre ++ v ∧
      start? (offset + pre.length) (before flag a pre) v = some (f, stop) := by
  induction t generalizing skip offset a with
  | nil => cases skip <;> cases h
  | cons c r ih =>
    have hrest : ∀ {k}, f ∈ scan start? flag k (offset + 1) (flag c) r →
        ∃ pre v stop, c :: r = pre ++ v ∧
          start? (offset + pre.length) (before flag a pre) v = some (f, stop) := by
      intro k hk
      obtain ⟨pre, v, stop, rfl, hv⟩ := ih hk
      refine ⟨c :: pre, v, stop, rfl, ?_⟩
      rw [before_cons, List.length_cons, Nat.add_comm pre.length, ← Nat.add_assoc]
      exact hv
    cases skip with
    | succ k => exact hrest h
    | zero =>
      rw [scan] at h
      split at h
      · rename_i found stop hfound
        rcases List.mem_cons.mp h with rfl | h
        · exact ⟨[], c :: r, stop, rfl, hfound⟩
        · exact hrest h
      · exact hrest h

/-- What is there to be found is found, if everything found in front of it ends in front of it or is
the same specifier. -/
theorem exists_mem_scan (hskip : skip ≤ pre.length)
    (hv : start? (offset + pre.length) (before flag a pre) (c :: t) = some (f, stop))
    (hfree : ∀ pre' between g stop', pre = pre' ++ between → between ≠ [] →
      start? (offset + pre'.length) (before flag a pre') (between ++ c :: t) = some (g, stop') →
      stop' ≤ offset + pre.length ∨ g.specifier = f.specifier) :
    ∃ g ∈ scan start? flag skip offset a (pre ++ c :: t), g.specifier = f.specifier := by
  induction pre generalizing skip offset a with
  | nil =>
    obtain rfl : skip = 0 := Nat.le_zero.mp hskip
    refine ⟨f, ?_, rfl⟩
    have hhere : start? offset a (c :: t) = some (f, stop) := hv
    rw [List.nil_append, scan, hhere]
    exact List.mem_cons_self
  | cons d pre ih =>
    have hlength : offset + 1 + pre.length = offset + (d :: pre).length := by
      rw [List.length_cons]
      omega
    have hrest : ∀ {k}, k ≤ pre.length →
        ∃ g ∈ scan start? flag k (offset + 1) (flag d) (pre ++ c :: t),
          g.specifier = f.specifier := by
      intro k hk
      refine ih hk ?_ ?_
      · rw [hlength, ← before_cons]
        exact hv
      · intro pre' between g stop' hpre hne hg
        rw [hlength]
        refine hfree (d :: pre') between g stop' (by rw [hpre]; rfl) hne ?_
        rw [before_cons, List.length_cons, Nat.add_comm pre'.length, ← Nat.add_assoc]
        exact hg
    cases skip with
    | succ k => exact hrest (Nat.le_of_succ_le_succ hskip)
    | zero =>
      rw [List.cons_append, scan]
      split
      · rename_i g stop' hg
        rcases hfree [] (d :: pre) g stop' rfl (by simp) hg with hstop | hsame
        · obtain ⟨x, hx, hxs⟩ := hrest (k := stop' - offset - 1)
            (by rw [List.length_cons] at hstop; omega)
          exact ⟨x, List.mem_cons_of_mem _ hx, hxs⟩
        · exact ⟨g, List.mem_cons_self, hsame⟩
      · exact hrest (Nat.zero_le _)

end Scan

/-! ## What is found -/

/-- The text ends within the quotes that a lead has opened. -/
def InQuotes (leadAt : List Char → List Char → Prop) (text : List Char) : Prop :=
  ∃ pre lead q x, text = pre ++ (lead ++ q :: x) ∧ leadAt pre lead ∧ isQuote q = true ∧
    ∀ c ∈ x, isQuote c = false ∧ c ≠ '\n'

/-- A specifier stands behind some lead of the source. -/
inductive Occurs (source s : List Char) : Prop
  | statement {pre lead t rest : List Char} : source = pre ++ (lead ++ t) →
      StatementLead pre lead → Quoted t s rest → Occurs source s
  | call {pre lead t blanks tail : List Char} : source = pre ++ (lead ++ t) →
      CallLead pre lead → Quoted t s (blanks ++ ')' :: tail) →
      (∀ c ∈ blanks, Text.isBlank c = true) → Occurs source s

/-- A specifier stands behind some lead of the source that is not itself in the quotes behind
another one. -/
inductive Written (source s : List Char) : Prop
  | statement {pre lead t rest : List Char} : source = pre ++ (lead ++ t) →
      StatementLead pre lead → Quoted t s rest → ¬ InQuotes StatementLead pre → Written source s
  | call {pre lead t blanks tail : List Char} : source = pre ++ (lead ++ t) →
      CallLead pre lead → Quoted t s (blanks ++ ')' :: tail) →
      (∀ c ∈ blanks, Text.isBlank c = true) → ¬ InQuotes CallLead pre → Written source s

/-- A line does not start within quotes. -/
theorem not_inQuotes_of_lineStart {pre : List Char} {leadAt : List Char → List Char → Prop}
    (h : before (· == '\n') true pre = true) : ¬ InQuotes leadAt pre := by
  rintro ⟨pre', lead, q, x, rfl, -, hq, hx⟩
  obtain ⟨c, hc, hlast⟩ : ∃ c, (q :: x).getLast? = some c ∧ (isQuote c = true ∨ c ≠ '\n') := by
    cases x with
    | nil => exact ⟨q, rfl, Or.inl hq⟩
    | cons d r =>
      refine ⟨(d :: r).getLast (by simp), ?_, Or.inr (hx _ (List.getLast_mem _)).2⟩
      rw [List.getLast?_cons_cons, List.getLast?_eq_some_getLast]
  have hne : c ≠ '\n' := by
    rcases hlast with hlast | hlast
    · rintro rfl
      cases hlast
    · exact hlast
  rw [before, ← List.append_assoc, List.getLast?_append, hc] at h
  simp [hne] at h

/-- What a statement names that opens a line is always written. -/
theorem Written.line {source pre lead : List Char} (hs : source = pre ++ (lead ++ t))
    (hpre : before (· == '\n') true pre = true) (hl : Lead lead) (ht : Quoted t s rest) :
    Written source s :=
  .statement hs (.line hpre hl) ht (not_inQuotes_of_lineStart hpre)

/-- Where a lead can start within what another one leads to: in front of the quotes, and then the
specifier is the same, or in them, or behind them. -/
theorem overlap_cases {lead lead' v between s' rest' : List Char}
    (heq : between ++ (lead ++ t) = lead' ++ v) (hl : ∀ c ∈ lead, isQuote c = false)
    (hl' : ∀ c ∈ lead', isQuote c = false) (ht : Quoted t s rest) (hv : Quoted v s' rest') :
    s' = s ∨
      (∃ q x, between = lead' ++ q :: x ∧ isQuote q = true ∧
        ∀ c ∈ x, isQuote c = false ∧ c ≠ '\n') ∨
      ∃ z, rest' = z ++ (lead ++ t) ∧ between.length = lead'.length + s'.length + 2 + z.length := by
  rcases List.append_eq_append_iff.mp heq with ⟨x, rfl, hx⟩ | ⟨y, rfl, hy⟩
  · left
    have hxq : ∀ c ∈ x, isQuote c = false := fun c hc => hl' c (List.mem_append_right _ hc)
    exact (quoted_unique hx.symm hxq hl hv ht).2
  · cases y with
    | nil =>
      left
      have hv' : lead ++ t = [] ++ v := hy.symm
      exact (quoted_unique hv' hl (by simp) ht hv).2.symm
    | cons d y =>
      right
      cases hv with
      | @intro q q' _ _ hq hq' hs hplain =>
        obtain ⟨rfl, htail⟩ := List.cons.inj hy
        rcases List.append_eq_append_iff.mp htail with ⟨x, rfl, hx⟩ | ⟨x, rfl, hx⟩
        · cases x with
          | nil =>
            left
            exact ⟨q, s', by simp, hq, hplain⟩
          | cons e z =>
            right
            obtain ⟨rfl, rfl⟩ := List.cons.inj hx
            refine ⟨z, rfl, ?_⟩
            simp only [List.length_append, List.length_cons]
            omega
        · left
          exact ⟨q, y, rfl, hq, fun c hc => hplain c (List.mem_append_left _ hc)⟩

/-- Where a statement is written, it is found. -/
theorem exists_mem_statementsFrom {pre lead : List Char} (hl : StatementLead pre lead)
    (ht : Quoted t s rest) (hfree : ¬ InQuotes StatementLead pre) :
    ∃ f ∈ statementsFrom 0 0 true (pre ++ (lead ++ t)), f.specifier = s := by
  have hv := opening?_eq_some (0 + pre.length) hl ht
  obtain ⟨c, r, hcr⟩ : ∃ c r, lead ++ t = c :: r := by
    obtain ⟨q, r, rfl, -⟩ := ht.exists_cons
    cases lead <;> exact ⟨_, _, rfl⟩
  rw [statementsFrom_eq_scan, hcr]
  rw [hcr] at hv
  refine exists_mem_scan (Nat.zero_le _) hv ?_
  rintro pre' between g stop' rfl - hg
  rw [← hcr] at hg
  obtain ⟨lead', v, heq, hl', ⟨rest', hq⟩, -, hstop⟩ := opening?_sound hg
  rcases overlap_cases heq hl.isQuote hl'.isQuote ht hq with hs | ⟨q, x, rfl, hxq, hx⟩ | ⟨z, -, hz⟩
  · exact Or.inr hs
  · exact absurd ⟨pre', lead', q, x, rfl, hl', hxq, hx⟩ hfree
  · left
    rw [hstop, List.length_append]
    omega

/-- Where an import while running is written, it is found. -/
theorem exists_mem_callsFrom {pre lead blanks tail : List Char} (hl : CallLead pre lead)
    (ht : Quoted t s (blanks ++ ')' :: tail)) (hb : ∀ c ∈ blanks, Text.isBlank c = true)
    (hfree : ¬ InQuotes CallLead pre) :
    ∃ f ∈ callsFrom 0 0 false (pre ++ (lead ++ t)), f.specifier = s := by
  have hbefore : before Text.isWord false pre = false := by
    obtain ⟨h, -, -⟩ := hl
    exact h
  have hv := call?_eq_some (0 + pre.length) hl ht hb
  obtain ⟨r, hcr⟩ : ∃ r, lead ++ t = 'i' :: r := by
    obtain ⟨-, -, -⟩ := hl
    exact ⟨_, rfl⟩
  rw [callsFrom_eq_scan, hcr]
  rw [hcr] at hv
  have hhere : tryCall (0 + pre.length) (before Text.isWord false pre) ('i' :: r) = _ :=
    (if_neg (by simp [hbefore])).trans hv
  refine exists_mem_scan (Nat.zero_le _) hhere ?_
  rintro pre' between g stop' rfl - hg
  rw [← hcr, tryCall] at hg
  split at hg
  · cases hg
  · rename_i hword
    obtain ⟨lead', v, blanks', tail', heq, hl', hq, hblanks⟩ :=
      call?_sound (u := pre') hg (Bool.eq_false_iff.mpr hword)
    rcases overlap_cases heq hl.isQuote hl'.isQuote ht hq with
      hs | ⟨q, x, rfl, hxq, hx⟩ | ⟨z, hz, hlength⟩
    · exact Or.inr hs
    · exact absurd ⟨pre', lead', q, x, rfl, hl', hxq, hx⟩ hfree
    · left
      rw [heq, call?_eq_some (0 + pre'.length) hl' hq hblanks] at hg
      obtain ⟨-, rfl⟩ := Prod.mk.inj (Option.some.inj hg)
      rw [hcr] at hz
      -- no lead starts with a blank or with the parenthesis
      rcases List.append_eq_append_iff.mp hz with ⟨x, rfl, hx⟩ | ⟨x, rfl, hx⟩
      · cases x with
        | nil => cases hx
        | cons d x =>
          rw [List.length_append, List.length_cons] at hlength
          rw [List.length_append]
          omega
      · cases x with
        | nil => cases hx
        | cons d x =>
          obtain ⟨rfl, -⟩ := List.cons.inj hx
          exact absurd (hblanks 'i' (by simp)) (by decide)

theorem mem_insertFound {g : Found} {fs : List Found} : f ∈ insertFound g fs ↔ f = g ∨ f ∈ fs := by
  induction fs with
  | nil => simp [insertFound]
  | cons h r ih =>
    rw [insertFound]
    split
    · simp only [List.mem_cons, ih]
      constructor
      · rintro (h | h | h) <;> simp [h]
      · rintro (h | h | h) <;> simp [h]
    · simp only [List.mem_cons]

theorem mem_foldl_insertFound {fs acc : List Found} :
    f ∈ fs.foldl (fun acc f => insertFound f acc) acc ↔ f ∈ fs ∨ f ∈ acc := by
  induction fs generalizing acc with
  | nil => simp
  | cons g r ih =>
    rw [List.foldl_cons, ih, mem_insertFound, List.mem_cons]
    constructor
    · rintro (h | h | h) <;> simp [h]
    · rintro ((h | h) | h) <;> simp [h]

theorem mem_firsts {x : String} {xs : List String} : x ∈ Text.firsts xs ↔ x ∈ xs := by
  induction xs with
  | nil => simp [Text.firsts]
  | cons y r ih =>
    simp only [Text.firsts, List.mem_cons, List.mem_filter, ih, Bool.not_eq_true',
      beq_eq_false_iff_ne]
    by_cases hxy : x = y
    · simp [hxy]
    · simp [hxy]

theorem mem_specifiers {source : List Char} {specifier : String} :
    specifier ∈ specifiers source ↔
      ∃ f ∈ statementsFrom 0 0 true source ++ callsFrom 0 0 false source,
        String.ofList f.specifier = specifier := by
  simp only [specifiers, mem_firsts, List.mem_map, mem_foldl_insertFound, List.not_mem_nil,
    or_false]

/-- **What the scan sees.** A specifier that is written behind a lead is found, unless that lead
stands in the quotes behind another one. -/
theorem mem_specifiers_of_written {source : List Char} {specifier : String}
    (h : Written source specifier.toList) : specifier ∈ specifiers source := by
  rw [mem_specifiers]
  have hof : ∀ f : Found, f.specifier = specifier.toList →
      String.ofList f.specifier = specifier := by
    intro f hf
    rw [hf, String.ofList_toList]
  cases h with
  | statement hs hl ht hfree =>
    obtain ⟨f, hf, hfs⟩ := exists_mem_statementsFrom hl ht hfree
    exact ⟨f, List.mem_append_left _ (hs ▸ hf), hof f hfs⟩
  | call hs hl ht hb hfree =>
    obtain ⟨f, hf, hfs⟩ := exists_mem_callsFrom hl ht hb hfree
    exact ⟨f, List.mem_append_right _ (hs ▸ hf), hof f hfs⟩

/-- Nothing is found that does not stand behind a lead. -/
theorem occurs_of_mem_specifiers {source : List Char} {specifier : String}
    (h : specifier ∈ specifiers source) : Occurs source specifier.toList := by
  obtain ⟨f, hf, rfl⟩ := mem_specifiers.mp h
  rw [String.toList_ofList]
  rcases List.mem_append.mp hf with hf | hf
  · rw [statementsFrom_eq_scan] at hf
    obtain ⟨pre, v, stop, rfl, hv⟩ := exists_of_mem_scan hf
    obtain ⟨lead, t, rfl, hl, ⟨rest, hq⟩, -, -⟩ := opening?_sound hv
    exact .statement rfl hl hq
  · rw [callsFrom_eq_scan] at hf
    obtain ⟨pre, v, stop, rfl, hv⟩ := exists_of_mem_scan hf
    rw [tryCall] at hv
    split at hv
    · cases hv
    · rename_i hword
      obtain ⟨lead, t, blanks, tail, rfl, hl, hq, hb⟩ :=
        call?_sound (u := pre) hv (Bool.eq_false_iff.mpr hword)
      exact .call rfl hl hq hb

end LivePreview.Script.ImportScan
