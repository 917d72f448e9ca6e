import LivePreview.Proofs.ParserRuns
/-!
# Names and blanks in the lexer

A name is cut off a text as a whole (`lexeme_name`), and blanks in front of a token are skipped
(`follows_of_blanks`).
-/
namespace LivePreview.Script

/-- The names of the script language. -/
def IsName (n : List Char) : Prop :=
  ∃ c r, n = c :: r ∧ Text.isNameStart c = true ∧ r.all Text.isNamePart = true

namespace Lexer

variable {n t : List Char} {c : Char}

/-- No name goes on in front of the text. -/
def Halts (t : List Char) : Prop := ∀ c r, t = c :: r → Text.isNamePart c = false ∧ c ≠ '\\'

theorem halts_cons {r : List Char} (hpart : Text.isNamePart c = false) (hne : c ≠ '\\') :
    Halts (c :: r) := by
  rintro d u heq
  obtain ⟨rfl, -⟩ := List.cons.inj heq
  exact ⟨hpart, hne⟩

theorem ne_of_isNamePart {d : Char} (hd : Text.isNamePart d = false)
    (hc : Text.isNamePart c = true) : c ≠ d := by
  rintro rfl
  exact Bool.false_ne_true (hd.symm.trans hc)

/-- The characters that a name starts with are no digits. -/
theorem isAsciiDigit_of_isNameStart (hc : Text.isNameStart c = true) :
    Text.isAsciiDigit c = false := by
  have hsmall : ∀ n < 128, Text.isNameStart (Char.ofNat n) = true →
      Text.isAsciiDigit (Char.ofNat n) = false := by decide
  by_cases hn : c.toNat < 128
  · have h := hsmall c.toNat hn
    rw [Char.ofNat_toNat] at h
    exact h hc
  · have hlarge : ¬ c ≤ '9' := fun h =>
      hn (Nat.lt_of_le_of_lt (UInt32.le_iff_toNat_le.mp h) (by decide))
    simp [Text.isAsciiDigit, hlarge]

/-- One more character of a name behind the first one. -/
theorem nameFrom_cons (hc : Text.isNamePart c = true) (fuel : Nat) (chars : List Char)
    (length : Nat) (escaped : Bool) :
    nameFrom (fuel + 1) ⟨chars, length + 1, escaped, c :: t, none⟩ =
      nameFrom fuel ⟨c :: chars, length + 2, escaped, t, none⟩ := by
  have hback : c ≠ '\\' := ne_of_isNamePart (by decide) hc
  simp [nameFrom, hback, hc]

theorem nameFrom_append (hn : n.all Text.isNamePart = true) (ht : Halts t) {fuel : Nat}
    (hfuel : n.length < fuel) (chars : List Char) (length : Nat) (escaped : Bool) :
    nameFrom fuel ⟨chars, length + 1, escaped, n ++ t, none⟩ =
      ⟨n.reverse ++ chars, length + 1 + n.length, escaped, t, none⟩ := by
  induction n generalizing fuel chars length with
  | nil =>
    obtain ⟨fuel, rfl⟩ : ∃ m, fuel = m + 1 := ⟨fuel - 1, by simp at hfuel; omega⟩
    cases t with
    | nil => rfl
    | cons d u =>
      obtain ⟨hpart, hne⟩ := ht d u rfl
      simp [nameFrom, hpart, hne]
  | cons d n ih =>
    obtain ⟨fuel, rfl⟩ : ∃ m, fuel = m + 1 := ⟨fuel - 1, by simp at hfuel; omega⟩
    rw [List.all_cons, Bool.and_eq_true] at hn
    rw [List.cons_append, nameFrom_cons hn.1, ih hn.2 (by simpa using hfuel)]
    simp
    omega

theorem name_append (hn : IsName n) (ht : Halts t) :
    name (n ++ t) = ⟨n, n.length, false, t, none⟩ := by
  obtain ⟨c, r, rfl, hc, hr⟩ := hn
  have hback : c ≠ '\\' := ne_of_isNamePart (by decide) (Text.isNamePart_of_isNameStart hc)
  have hfirst : nameFrom ((c :: r ++ t).length + 1) ⟨[], 0, false, c :: r ++ t, none⟩ =
      nameFrom (c :: r ++ t).length ⟨[c], 1, false, r ++ t, none⟩ := by
    simp [nameFrom, hback, hc]
  have hroom : r.length < (c :: r ++ t).length := by
    rw [List.length_append, List.length_cons]
    omega
  rw [name, hfirst, nameFrom_append hr ht hroom [c] 0 false]
  simp
  omega

/-- A name is cut off as a whole. -/
theorem lexeme_name (hn : IsName n) (ht : Halts t) :
    lexeme (n ++ t) = ⟨.word (String.ofList n), n.length, t, none, false⟩ := by
  have hname := name_append hn ht
  obtain ⟨c, r, rfl, hc, hr⟩ := hn
  have hpart := Text.isNamePart_of_isNameStart hc
  have hdigit := isAsciiDigit_of_isNameStart hc
  have hne : ∀ d, Text.isNamePart d = false → c ≠ d := fun d hd => ne_of_isNamePart hd hpart
  rw [List.cons_append] at hname ⊢
  rw [lexeme.eq_def]
  simp [hne '"' (by decide), hne '\'' (by decide), hne '`' (by decide), hne '.' (by decide),
    hne '#' (by decide), hdigit, hname]

/-! ## Blanks -/

/-- A text that starts with neither a blank nor a comment. -/
def Solid (t : List Char) : Prop :=
  ∀ c r, t = c :: r → isLineBreak c = false ∧ isSpace c = false ∧ c ≠ '/'

theorem solid_cons {r : List Char} (hbreak : isLineBreak c = false) (hspace : isSpace c = false)
    (hslash : c ≠ '/') : Solid (c :: r) := by
  rintro d u heq
  obtain ⟨rfl, -⟩ := List.cons.inj heq
  exact ⟨hbreak, hspace, hslash⟩

theorem Solid.gapFrom {mayTrail : Bool} (ht : Solid t) {fuel : Nat} (hfuel : 0 < fuel) (g : Gap) :
    gapFrom mayTrail fuel g t = (g, t) := by
  obtain ⟨fuel, rfl⟩ : ∃ m, fuel = m + 1 := ⟨fuel - 1, by omega⟩
  cases t with
  | nil => rfl
  | cons c r =>
    obtain ⟨hbreak, hspace, hslash⟩ := ht c r rfl
    simp [Lexer.gapFrom, hbreak, hspace, hslash]

/-- Blanks leave nothing behind but the knowledge whether they end a line. -/
theorem gapFrom_blanks {mayTrail : Bool} {w : List Char} (hw : w.all Text.isBlank = true)
    (ht : Solid t) {fuel : Nat} (hfuel : w.length < fuel) {g : Gap} (hg : g.comments = []) :
    ∃ g', gapFrom mayTrail fuel g (w ++ t) = (g', t) ∧ g'.comments = [] ∧
      g'.afterBreak = (g.afterBreak || w.any isLineBreak) ∧ g'.pure = g.pure ∧
      g'.effectless = g.effectless ∧ g'.unterminated = g.unterminated := by
  induction w generalizing fuel g with
  | nil => exact ⟨g, ht.gapFrom (by simpa using hfuel) g, hg, by simp⟩
  | cons c w ih =>
    obtain ⟨fuel, rfl⟩ : ∃ m, fuel = m + 1 := ⟨fuel - 1, by simp at hfuel; omega⟩
    rw [List.all_cons, Bool.and_eq_true] at hw
    have hslash : c ≠ '/' := by
      rintro rfl
      exact absurd hw.1 (by decide)
    cases hbreak : isLineBreak c with
    | true =>
      have hlineBreak : { g.lineBreak with length := g.length + 1 }.comments = [] := by
        simp [Gap.lineBreak, hg]
      obtain ⟨g', hgap, hcomments, hafter, hrest⟩ :=
        ih hw.2 (by simpa using hfuel : w.length < fuel) hlineBreak
      exact ⟨g', by simpa [Lexer.gapFrom, hslash, hbreak] using hgap, hcomments,
        by simp [hafter, hbreak, Gap.lineBreak], hrest⟩
    | false =>
      have hspace : isSpace c = true := by simp [isSpace, hw.1, hbreak]
      have hblank : { g with length := g.length + 1 }.comments = [] := hg
      obtain ⟨g', hgap, hcomments, hafter, hrest⟩ :=
        ih hw.2 (by simpa using hfuel : w.length < fuel) hblank
      exact ⟨g', by simpa [Lexer.gapFrom, hslash, hbreak, hspace] using hgap, hcomments,
        by simp [hafter, hbreak], hrest⟩

/-- The code points of the blanks of the script language. -/
def blankPoints : List Nat :=
  List.range' 0x9 5 ++ List.range' 0x2000 12 ++
    [0x20, 0x85, 0xA0, 0x1680, 0x180E, 0x2028, 0x2029, 0x202F, 0x205F, 0x3000, 0xFEFF]

theorem mem_blankPoints_of_isBlank (hc : Text.isBlank c = true) : c.toNat ∈ blankPoints := by
  simp only [Text.isBlank, Bool.or_eq_true, Bool.and_eq_true, beq_iff_eq, decide_eq_true_eq] at hc
  simp only [blankPoints, List.mem_append, List.mem_range'_1, List.mem_cons, List.not_mem_nil,
    or_false]
  omega

theorem mem_blankPoints (hc : isLineBreak c = true ∨ isSpace c = true) :
    c.toNat ∈ blankPoints := by
  rcases hc with hbreak | hspace
  · simp only [isLineBreak, Bool.or_eq_true, beq_iff_eq] at hbreak
    rcases hbreak with ((rfl | rfl) | h) | h
    · decide
    · decide
    · exact h ▸ by decide
    · exact h ▸ by decide
  · simp only [isSpace, Bool.or_eq_true, Bool.and_eq_true, beq_iff_eq] at hspace
    rcases hspace with ((⟨hblank, -⟩ | h) | h) | h
    · exact mem_blankPoints_of_isBlank hblank
    · exact h ▸ by decide
    · exact h ▸ by decide
    · exact h ▸ by decide

/-- Ranges that lie beside some code points hold none of them. -/
theorem inRanges_eq_false {ranges : List (Nat × Nat)} {points : List Nat}
    (h : (ranges.all fun r => points.all fun n => n.blt r.1 || r.2.blt n) = true) :
    ∀ n ∈ points, Text.inRanges ranges n = false := by
  intro n hn
  refine List.any_eq_false.mpr fun r hr => ?_
  have hbeside := List.all_eq_true.mp (List.all_eq_true.mp h r hr) n hn
  simp only [Bool.or_eq_true, Nat.blt_eq] at hbeside
  simp only [Bool.and_eq_true, decide_eq_true_eq]
  omega

/-- No name has a blank in it. -/
theorem isNamePart_of_blank (hc : isLineBreak c = true ∨ isSpace c = true) :
    Text.isNamePart c = false := by
  have hletters : ∀ n ∈ blankPoints, Text.inRanges Text.letterRanges n = false :=
    inRanges_eq_false (by decide +kernel)
  have hattached : ∀ n ∈ blankPoints, Text.inRanges Text.attachedRanges n = false :=
    inRanges_eq_false (by decide +kernel)
  have hmem := mem_blankPoints hc
  rw [← Char.ofNat_toNat c]
  generalize c.toNat = n at hmem
  have hpoint : (Char.ofNat n).toNat = n := by
    revert n
    decide +kernel
  unfold Text.isNamePart Text.isNameStart
  rw [hpoint, hletters n hmem, hattached n hmem]
  clear hpoint hletters hattached
  revert n
  decide +kernel

/-- A name stands behind no gap. -/
theorem solid_name (hn : IsName n) : Solid (n ++ t) := by
  obtain ⟨c, r, rfl, hc, -⟩ := hn
  have hpart := Text.isNamePart_of_isNameStart hc
  refine solid_cons ?_ ?_ (ne_of_isNamePart (by decide) hpart)
  · exact Bool.eq_false_iff.mpr fun h => by simp [isNamePart_of_blank (.inl h)] at hpart
  · exact Bool.eq_false_iff.mpr fun h => by simp [isNamePart_of_blank (.inr h)] at hpart

/-- A blank ends every name. -/
theorem halts_blank {r : List Char} (hc : Text.isBlank c = true) : Halts (c :: r) := by
  have hgap : isLineBreak c = true ∨ isSpace c = true := by
    cases hbreak : isLineBreak c with
    | true => exact .inl rfl
    | false => exact .inr (by simp [isSpace, hc, hbreak])
  refine halts_cons (isNamePart_of_blank hgap) ?_
  rintro rfl
  exact absurd hc (by decide)

theorem halts_blanks {w : List Char} (hw : w.all Text.isBlank = true) (ht : Halts t) :
    Halts (w ++ t) := by
  cases w with
  | nil => exact ht
  | cons c w =>
    rw [List.all_cons, Bool.and_eq_true] at hw
    exact halts_blank hw.1

end Lexer

namespace Parser

open Lexer

variable {n t t' w : List Char} {k k' : TokenKind} {b : Bool}

/-- A token behind blanks. -/
theorem follows_of_blanks (hw : w.all Text.isBlank = true) (ht : Solid t) {length : Nat}
    (hl : lexeme t = ⟨k', length, t', none, false⟩) :
    Follows ⟨k, b, w ++ t⟩ ⟨k', w.any isLineBreak, t'⟩ := by
  intro offset
  obtain ⟨g, hgap, hcomments, hafter, hpure, heffectless, hclosed⟩ :
      ∃ g, gap (some k) (w ++ t) = (g, t) ∧ g.comments = [] ∧
        g.afterBreak = w.any isLineBreak ∧ g.pure = false ∧ g.effectless = false ∧
        g.unterminated = none := by
    obtain ⟨g, h⟩ := gapFrom_blanks hw ht
      (by rw [List.length_append]; omega : w.length < (w ++ t).length + 1)
      (rfl : (⟨0, false, false, [], false, false, [], none⟩ : Gap).comments = [])
    exact ⟨g, by simpa [gap] using h⟩
  refine ⟨offset + g.length, offset + g.length + length, g.pragmas, ?_⟩
  simp [lexWith, hgap, hl, hcomments, hafter, hpure, heffectless, hclosed]

/-- A name behind blanks. -/
theorem follows_name (hw : w.all Text.isBlank = true) (hn : IsName n) (ht : Halts t) :
    Follows ⟨k, b, w ++ (n ++ t)⟩ ⟨.word (String.ofList n), w.any isLineBreak, t⟩ :=
  follows_of_blanks hw (solid_name hn) (lexeme_name hn ht)

end Parser

end LivePreview.Script
