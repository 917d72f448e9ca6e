import LivePreview.Decimal.Shortest
import LivePreview.Example.Label
import Mathlib.Algebra.Group.Nat.Defs
/-!
# The natural order of labels

Labels are compared piece by piece, and each piece has a key: a number stands under one digit with
its value behind, any other character under its lower case (`Piece.key`). No lower case starts with
a digit, so all numbers stand at one place among the letters (`compareChars_digit`), and longer
numbers without zeros in front are the greater ones (`compare_significant`). The natural order is
therefore the lexicographic order of the keys, with the label itself behind them
(`naturalCompare_eq`), and inherits from it that it is total and equal only for equal labels
(`labels_totally_ordered`).
-/
namespace LivePreview

/-! ## Digits -/

namespace Text

/-- A character beyond the digits is no digit, and neither is what stands for no character. -/
theorem not_isAsciiDigit_ofNat {n : Nat} (h : 57 < n) : isAsciiDigit (Char.ofNat n) = false := by
  by_cases hn : n.isValidChar
  · have hpoint : (Char.ofNat n).toNat = n := by
      rw [Char.ofNat, dif_pos hn]
      rfl
    rw [← Bool.not_eq_true, isAsciiDigit_iff, hpoint]
    omega
  · rw [Char.ofNat, dif_neg hn]
    decide

theorem not_isAsciiDigit_asciiLower {c : Char} (h : isAsciiDigit c = false) :
    isAsciiDigit (asciiLower c) = false := by
  rw [asciiLower]
  split
  · rename_i hupper
    have hpoint : 65 ≤ c.toNat ∧ c.toNat ≤ 90 := by
      simpa [Char.le_def, UInt32.le_iff_toNat_le] using hupper
    exact not_isAsciiDigit_ofNat (by omega)
  · exact h

/-- No lower case letter of the table is a digit, nor stands in front of one. -/
theorem lt_of_map?_lowerRuns {n m : Nat} (h : CaseRun.map? lowerRuns n = some m) : 57 < m := by
  have hruns : ∀ r ∈ lowerRuns, 57 < (r.first : Int) + r.shift := by decide +kernel
  obtain ⟨r, hr, rfl⟩ := Option.map_eq_some_iff.mp h
  have hfirst : r.first ≤ n := by
    have hin := List.find?_some hr
    simp only [Bool.and_eq_true, decide_eq_true_eq] at hin
    exact hin.1.1
  have hbeyond := hruns r (List.mem_of_find?_eq_some hr)
  simp only [Int.ofNat_eq_natCast]
  omega

/-- **A lower case is no digit.** The lower case of a character that is no digit starts with a
character that is none. -/
theorem lower_eq_cons {c : Char} (h : isAsciiDigit c = false) :
    ∃ d r, lower c = d :: r ∧ isAsciiDigit d = false := by
  rw [lower]
  split
  · exact ⟨_, _, rfl, not_isAsciiDigit_asciiLower h⟩
  · split
    · exact ⟨_, _, rfl, by decide⟩
    · refine ⟨_, _, rfl, ?_⟩
      cases hm : CaseRun.map? lowerRuns c.toNat with
      | none => simpa using h
      | some m => simpa using not_isAsciiDigit_ofNat (lt_of_map?_lowerRuns hm)

end Text

namespace Decimal

variable {a b ds : List Char}

theorem ofDigits_cons (d : Char) (ds : List Char) :
    ofDigits (d :: ds) = 10 ^ ds.length * (d.toNat - 48) + ofDigits ds := by
  have hstep : ofDigits (d :: ds) = Nat.ofDigitChars 10 ds (10 * 0 + (d.toNat - 48)) := rfl
  rw [hstep, Nat.ofDigitChars_eq_ofDigitChars_zero, Nat.mul_zero, Nat.zero_add]
  rfl

theorem ofDigits_lt (h : ∀ c ∈ ds, Text.isAsciiDigit c = true) :
    ofDigits ds < 10 ^ ds.length := by
  induction ds with
  | nil => decide
  | cons d ds ih =>
    have hd := Text.isAsciiDigit_iff.mp (h d List.mem_cons_self)
    have hds := ih fun c hc => h c (List.mem_cons_of_mem d hc)
    have hfirst : 10 ^ ds.length * (d.toNat - 48) ≤ 10 ^ ds.length * 9 :=
      Nat.mul_le_mul_left _ (by omega)
    rw [ofDigits_cons, List.length_cons, Nat.pow_succ]
    omega

/-- Characters are ordered by their code points. -/
theorem compare_char (c d : Char) : compare c d = compare c.toNat d.toNat := by
  rcases Nat.lt_trichotomy c.toNat d.toNat with hlt | heq | hgt
  · rw [Nat.compare_eq_lt.mpr hlt]
    exact compareOfLessAndEq_eq_lt.mpr hlt
  · rw [Char.toNat_inj.mp heq, Std.compare_self, Std.compare_self]
  · rw [Nat.compare_eq_gt.mpr hgt, Std.OrientedCmp.gt_iff_lt]
    exact compareOfLessAndEq_eq_lt.mpr hgt

/-- A number that is greater in its first digits is greater, whatever the digits behind are. -/
theorem mul_add_lt {p c d x y : Nat} (hx : x < p) (h : c < d) : p * c + x < p * d + y :=
  calc p * c + x < p * (c + 1) := by rw [Nat.mul_succ]; omega
    _ ≤ p * d := Nat.mul_le_mul_left p h
    _ ≤ p * d + y := Nat.le_add_right _ _

/-- Equally long runs of digits are ordered by their values. -/
theorem compare_of_length_eq (ha : ∀ c ∈ a, Text.isAsciiDigit c = true)
    (hb : ∀ c ∈ b, Text.isAsciiDigit c = true) (h : a.length = b.length) :
    compare a b = compare (ofDigits a) (ofDigits b) := by
  induction a generalizing b with
  | nil => rw [List.length_eq_zero_iff.mp h.symm]; rfl
  | cons c a ih =>
    cases b with
    | nil => cases h
    | cons d b =>
      have hlength : a.length = b.length := Nat.succ.inj h
      have ha' : ∀ c ∈ a, Text.isAsciiDigit c = true := fun c hc => ha c (List.mem_cons_of_mem _ hc)
      have hb' : ∀ c ∈ b, Text.isAsciiDigit c = true := fun c hc => hb c (List.mem_cons_of_mem _ hc)
      have hltA : ofDigits a < 10 ^ b.length := hlength ▸ ofDigits_lt ha'
      have hltB : ofDigits b < 10 ^ b.length := ofDigits_lt hb'
      have hc := Text.isAsciiDigit_iff.mp (ha c List.mem_cons_self)
      have hd := Text.isAsciiDigit_iff.mp (hb d List.mem_cons_self)
      rw [List.compare_cons_cons, ih ha' hb' hlength, compare_char, ofDigits_cons, ofDigits_cons,
        hlength]
      -- the first digits decide unless they are the same
      rcases Nat.lt_trichotomy c.toNat d.toNat with hlt | heq | hgt
      · have hvalue := mul_add_lt (y := ofDigits b) hltA (show c.toNat - 48 < d.toNat - 48 by omega)
        rw [Nat.compare_eq_lt.mpr hlt, Nat.compare_eq_lt.mpr hvalue]
        rfl
      · simp [heq, Std.compare_self, Nat.compare_eq_ite_lt]
      · have hvalue := mul_add_lt (y := ofDigits a) hltB (show d.toNat - 48 < c.toNat - 48 by omega)
        rw [Nat.compare_eq_gt.mpr hgt, Nat.compare_eq_gt.mpr hvalue]
        rfl

end Decimal

namespace Example

/-! ## Pieces -/

theorem ofDigits_significant (ds : List Char) :
    Decimal.ofDigits (significant ds) = Decimal.ofDigits ds := by
  induction ds with
  | nil => rfl
  | cons d ds ih =>
    by_cases hd : d = '0'
    · rw [significant, List.dropWhile_cons_of_pos (by simpa using hd), ← significant, ih, hd,
        Decimal.ofDigits_cons]
      simp
    · rw [significant, List.dropWhile_cons_of_neg (by simpa using hd)]

theorem isAsciiDigit_of_mem_significant {ds : List Char}
    (h : ∀ c ∈ ds, Text.isAsciiDigit c = true) :
    ∀ c ∈ significant ds, Text.isAsciiDigit c = true :=
  fun c hc => h c ((List.dropWhile_suffix _).mem hc)

/-- A run of digits without zeros in front is at least the power of ten of its length. -/
theorem pow_le_ofDigits_significant {ds : List Char} (h : ∀ c ∈ ds, Text.isAsciiDigit c = true)
    (hne : significant ds ≠ []) :
    10 ^ ((significant ds).length - 1) ≤ Decimal.ofDigits (significant ds) := by
  obtain ⟨d, r, hcons⟩ := List.exists_cons_of_ne_nil hne
  have hdigit := isAsciiDigit_of_mem_significant h d (hcons ▸ List.mem_cons_self)
  have hzero : d ≠ '0' := by
    have hhead := List.head_dropWhile_not (· == '0') (l := ds) hne
    simp only [significant] at hcons
    simpa [hcons] using hhead
  have hpos : 0 < d.toNat - 48 := by
    have hpoint := Text.isAsciiDigit_iff.mp hdigit
    have hne : d.toNat ≠ 48 := fun h => hzero (Char.toNat_inj.mp h)
    omega
  rw [hcons, Decimal.ofDigits_cons, List.length_cons, Nat.add_sub_cancel]
  exact Nat.le_add_right_of_le (Nat.le_mul_of_pos_right _ hpos)

/-- Runs of digits without zeros in front are ordered by their lengths first: the longer one has the
greater value. -/
theorem ofDigits_lt_of_length_lt {a b : List Char} (ha : ∀ c ∈ a, Text.isAsciiDigit c = true)
    (hb : ∀ c ∈ b, Text.isAsciiDigit c = true)
    (h : (significant a).length < (significant b).length) :
    Decimal.ofDigits (significant a) < Decimal.ofDigits (significant b) := by
  have hne : significant b ≠ [] := fun hnil => by simp [hnil] at h
  calc Decimal.ofDigits (significant a)
      < 10 ^ (significant a).length := Decimal.ofDigits_lt (isAsciiDigit_of_mem_significant ha)
    _ ≤ 10 ^ ((significant b).length - 1) := Nat.pow_le_pow_right (by decide) (by omega)
    _ ≤ Decimal.ofDigits (significant b) := pow_le_ofDigits_significant hb hne

/-- **Numbers are ordered by value**, however long they are and whatever zeros stand in front. -/
theorem compare_significant {a b : List Char} (ha : ∀ c ∈ a, Text.isAsciiDigit c = true)
    (hb : ∀ c ∈ b, Text.isAsciiDigit c = true) :
    (compare (significant a).length (significant b).length).then
        (compare (significant a) (significant b)) =
      compare (Decimal.ofDigits a) (Decimal.ofDigits b) := by
  rw [← ofDigits_significant a, ← ofDigits_significant b]
  rcases Nat.lt_trichotomy (significant a).length (significant b).length with hlt | heq | hgt
  · rw [Nat.compare_eq_lt.mpr hlt, Nat.compare_eq_lt.mpr (ofDigits_lt_of_length_lt ha hb hlt)]
    rfl
  · rw [heq, Std.compare_self, Ordering.eq_then]
    exact Decimal.compare_of_length_eq (isAsciiDigit_of_mem_significant ha)
      (isAsciiDigit_of_mem_significant hb) heq
  · rw [Nat.compare_eq_gt.mpr hgt, Nat.compare_eq_gt.mpr (ofDigits_lt_of_length_lt hb ha hgt)]
    rfl

theorem compareChars_eq (a b : List Char) : compareChars a b = compare a b := by
  induction a generalizing b with
  | nil => cases b <;> rfl
  | cons c a ih =>
    cases b with
    | nil => rfl
    | cons d b => rw [compareChars, List.compare_cons_cons, ih]

/-- A piece as labels have it: a number has digits, and what is no number starts with none. -/
def Piece.Proper : Piece → Prop
  | .number ds => ds ≠ [] ∧ ∀ c ∈ ds, Text.isAsciiDigit c = true
  | .letter l => ∃ c r, l = c :: r ∧ Text.isAsciiDigit c = false

/-- What a piece is ordered by: numbers stand under one digit, with their values behind. -/
def Piece.key : Piece → List Char × Nat
  | .number ds => (['0'], Decimal.ofDigits ds)
  | .letter l => (l, 0)

/-- All digits stand at one place among the characters that are none. -/
theorem compare_digit {d c : Char} (hd : Text.isAsciiDigit d = true)
    (hc : Text.isAsciiDigit c = false) :
    compare d c = compare '0' c ∧ compare '0' c ≠ .eq := by
  have hdigit := Text.isAsciiDigit_iff.mp hd
  have hother : ¬ (48 ≤ c.toNat ∧ c.toNat ≤ 57) := fun h => by
    simp [Text.isAsciiDigit_iff.mpr h] at hc
  have hzero : '0'.toNat = 48 := rfl
  rw [Decimal.compare_char, Decimal.compare_char, hzero]
  rcases Nat.lt_or_ge c.toNat 48 with hlt | hge
  · rw [Nat.compare_eq_gt.mpr (by omega : c.toNat < d.toNat), Nat.compare_eq_gt.mpr hlt]
    exact ⟨rfl, by decide⟩
  · rw [Nat.compare_eq_lt.mpr (by omega : d.toNat < c.toNat),
      Nat.compare_eq_lt.mpr (by omega : 48 < c.toNat)]
    exact ⟨rfl, by decide⟩

section Keys

open Std

attribute [local instance] lexOrd

theorem compare_number_letter {ds l : List Char} (hds : (Piece.number ds).Proper)
    (hl : (Piece.letter l).Proper) :
    compare (ds.take 1) l = compare (Piece.number ds).key (Piece.letter l).key := by
  obtain ⟨hne, hdigits⟩ := hds
  obtain ⟨c, r, rfl, hc⟩ := hl
  obtain ⟨d, ds, rfl⟩ := List.exists_cons_of_ne_nil hne
  obtain ⟨hsame, hother⟩ := compare_digit (hdigits d List.mem_cons_self) hc
  have hkeys : compare (Piece.number (d :: ds)).key (Piece.letter (c :: r)).key =
      (compare ['0'] (c :: r)).then (compare (Decimal.ofDigits (d :: ds)) 0) := rfl
  rw [hkeys, List.take_succ_cons, List.take_zero, List.compare_cons_cons, List.compare_cons_cons,
    hsame]
  cases hzero : compare '0' c with
  | eq => exact absurd hzero hother
  | lt => rfl
  | gt => rfl

/-- **Pieces are ordered by their keys.** -/
theorem Piece.compare_eq {p q : Piece} (hp : p.Proper) (hq : q.Proper) :
    p.compare q = Ord.compare p.key q.key := by
  cases p with
  | number ds =>
    cases q with
    | number es =>
      rw [Piece.compare, compareChars_eq]
      exact compare_significant hp.2 hq.2
    | letter m =>
      rw [Piece.compare, compareChars_eq]
      exact compare_number_letter hp hq
  | letter l =>
    cases q with
    | number es =>
      rw [Piece.compare, compareChars_eq]
      refine OrientedCmp.eq_swap.trans ?_
      rw [compare_number_letter hq hp]
      exact OrientedCmp.eq_swap.symm
    | letter m =>
      have hkeys : Ord.compare (Piece.letter l).key (Piece.letter m).key =
          (Ord.compare l m).then (Ord.compare 0 0) := rfl
      rw [Piece.compare, compareChars_eq, hkeys, Std.compare_self, Ordering.then_eq]

theorem proper_of_mem_pieces {s : List Char} {p : Piece} (h : p ∈ pieces s) : p.Proper := by
  induction s generalizing p with
  | nil => simp [pieces] at h
  | cons c r ih =>
    rw [pieces] at h
    split at h
    · rename_i hc
      split at h
      · rename_i ds ps hr
        have hds : (Piece.number ds).Proper := ih (hr ▸ List.mem_cons_self)
        rcases List.mem_cons.mp h with rfl | hp
        · exact ⟨List.cons_ne_nil _ _, List.forall_mem_cons.mpr ⟨hc, hds.2⟩⟩
        · exact ih (hr ▸ List.mem_cons_of_mem _ hp)
      · rcases List.mem_cons.mp h with rfl | hp
        · exact ⟨List.cons_ne_nil _ _, by simpa using hc⟩
        · exact ih hp
    · rename_i hc
      rcases List.mem_cons.mp h with rfl | hp
      · exact Text.lower_eq_cons (Bool.not_eq_true _ ▸ hc)
      · exact ih hp

theorem comparePieces_eq {ps qs : List Piece} (hps : ∀ p ∈ ps, p.Proper)
    (hqs : ∀ q ∈ qs, q.Proper) :
    comparePieces ps qs = compare (ps.map Piece.key) (qs.map Piece.key) := by
  induction ps generalizing qs with
  | nil => cases qs <;> rfl
  | cons p ps ih =>
    cases qs with
    | nil => rfl
    | cons q qs =>
      obtain ⟨hp, hps⟩ := List.forall_mem_cons.mp hps
      obtain ⟨hq, hqs⟩ := List.forall_mem_cons.mp hqs
      rw [comparePieces, Piece.compare_eq hp hq, ih hps hqs, List.map_cons, List.map_cons,
        List.compare_cons_cons]

/-- What a label is ordered by: the keys of its pieces, then its characters. -/
def labelKey (s : String) : List (List Char × Nat) × List Char :=
  ((pieces s.toList).map Piece.key, s.toList)

/-- **The natural order is the order of the keys.** -/
theorem naturalCompare_eq (a b : String) :
    naturalCompare a b = compare (labelKey a) (labelKey b) := by
  have hkeys : compare (labelKey a) (labelKey b) =
      (compare ((pieces a.toList).map Piece.key) ((pieces b.toList).map Piece.key)).then
        (compare a.toList b.toList) := rfl
  rw [naturalCompare, compareChars_eq, hkeys,
    comparePieces_eq (fun _ => proper_of_mem_pieces) fun _ => proper_of_mem_pieces]

instance : TransCmp naturalCompare where
  eq_swap := by
    intro a b
    rw [naturalCompare_eq, naturalCompare_eq]
    exact OrientedCmp.eq_swap
  isLE_trans := by
    intro a b c hab hbc
    rw [naturalCompare_eq] at hab hbc ⊢
    exact TransCmp.isLE_trans hab hbc

instance : LawfulEqCmp naturalCompare where
  compare_self := by
    intro a
    rw [naturalCompare_eq]
    exact ReflCmp.compare_self
  eq_of_compare := by
    intro a b h
    rw [naturalCompare_eq] at h
    exact String.toList_inj.mp (congrArg Prod.snd (LawfulEqCmp.eq_of_compare h))

end Keys

/-! ## Numbers in labels -/

/-- Digits that stand between two texts, as many as stand together there. -/
structure DigitRun (front digits back : List Char) : Prop where
  ne_nil : digits ≠ []
  digits : ∀ c ∈ digits, Text.isAsciiDigit c = true
  front : ∀ c ∈ front.getLast?, Text.isAsciiDigit c = false
  back : ∀ c ∈ back.head?, Text.isAsciiDigit c = false

theorem pieces_cons_of_digit {c : Char} (hc : Text.isAsciiDigit c = true) (r : List Char) :
    pieces (c :: r) =
      match pieces r with
      | .number ds :: ps => .number (c :: ds) :: ps
      | ps => .number [c] :: ps := by
  rw [pieces]
  exact if_pos hc

theorem pieces_cons_of_not_digit {c : Char} (hc : Text.isAsciiDigit c = false) (r : List Char) :
    pieces (c :: r) = .letter (Text.lower c) :: pieces r := by
  simp [pieces, hc]

theorem pieces_cons_ne_nil (c : Char) (r : List Char) : pieces (c :: r) ≠ [] := by
  rw [pieces]
  split
  · split <;> exact List.cons_ne_nil _ _
  · exact List.cons_ne_nil _ _

/-- A text that starts with no digit has no number as its first piece. -/
theorem pieces_ne_number {s : List Char} (h : ∀ c ∈ s.head?, Text.isAsciiDigit c = false)
    (ds : List Char) (ps : List Piece) : pieces s ≠ .number ds :: ps := by
  cases s with
  | nil => simp [pieces]
  | cons c r => simp [pieces_cons_of_not_digit (h c rfl)]

/-- Digits that no digit follows are one piece. -/
theorem pieces_digits {ds s : List Char} (hne : ds ≠ [])
    (hds : ∀ c ∈ ds, Text.isAsciiDigit c = true)
    (hs : ∀ c ∈ s.head?, Text.isAsciiDigit c = false) :
    pieces (ds ++ s) = .number ds :: pieces s := by
  induction ds with
  | nil => exact absurd rfl hne
  | cons d ds ih =>
    obtain ⟨hd, hds⟩ := List.forall_mem_cons.mp hds
    rw [List.cons_append, pieces_cons_of_digit hd]
    cases ds with
    | nil =>
      rw [List.nil_append]
      split
      · rename_i es ps heq
        exact absurd heq (pieces_ne_number hs es ps)
      · rfl
    | cons e ds => rw [ih (List.cons_ne_nil _ _) hds]

/-- A text that ends in no digit has its pieces in front of those of any other. -/
theorem pieces_append {s : List Char} (hs : ∀ c ∈ s.getLast?, Text.isAsciiDigit c = false)
    (t : List Char) : pieces (s ++ t) = pieces s ++ pieces t := by
  induction s with
  | nil => rfl
  | cons c r ih =>
    cases r with
    | nil =>
      -- only a digit in the last place could grow into the text behind
      have hc : Text.isAsciiDigit c = false := hs c rfl
      rw [List.singleton_append, pieces_cons_of_not_digit hc, pieces_cons_of_not_digit hc]
      rfl
    | cons d r =>
      have hr := ih fun c hc => hs c (by simpa [List.getLast?_cons_cons] using hc)
      rw [List.cons_append]
      by_cases hc : Text.isAsciiDigit c = true
      · rw [pieces_cons_of_digit hc, pieces_cons_of_digit hc, hr]
        cases hpieces : pieces (d :: r) with
        | nil => exact absurd hpieces (pieces_cons_ne_nil d r)
        | cons p ps => cases p <;> rfl
      · have hletter : Text.isAsciiDigit c = false := Bool.not_eq_true _ ▸ hc
        rw [pieces_cons_of_not_digit hletter, pieces_cons_of_not_digit hletter, hr]
        rfl

theorem DigitRun.pieces_eq {front digits back : List Char} (h : DigitRun front digits back) :
    pieces (front ++ digits ++ back) = pieces front ++ .number digits :: pieces back := by
  rw [List.append_assoc, pieces_append h.front, pieces_digits h.ne_nil h.digits h.back]

/-- Pieces in front that are the same decide nothing. -/
theorem comparePieces_append (ps : List Piece) (hps : ∀ p ∈ ps, p.Proper) (qs rs : List Piece) :
    comparePieces (ps ++ qs) (ps ++ rs) = comparePieces qs rs := by
  induction ps with
  | nil => rfl
  | cons p ps ih =>
    obtain ⟨hp, hps⟩ := List.forall_mem_cons.mp hps
    have hself : p.compare p = .eq := by
      rw [Piece.compare_eq hp hp]
      exact Std.ReflCmp.compare_self
    rw [List.cons_append, List.cons_append, comparePieces, hself, Ordering.eq_then, ih hps]

/-- Behind what two labels have in common the label with the smaller number is smaller. -/
theorem naturalCompare_of_digits {front ds es back rest : List Char}
    (hds : DigitRun front ds back) (hes : DigitRun front es rest)
    (h : Decimal.ofDigits ds < Decimal.ofDigits es) :
    naturalCompare (String.ofList (front ++ ds ++ back))
      (String.ofList (front ++ es ++ rest)) = .lt := by
  have hnumbers : (Piece.number ds).compare (.number es) = .lt := by
    rw [Piece.compare, compareChars_eq, compare_significant hds.digits hes.digits]
    exact Nat.compare_eq_lt.mpr h
  rw [naturalCompare, String.toList_ofList, String.toList_ofList, hds.pieces_eq, hes.pieces_eq,
    comparePieces_append _ fun _ => proper_of_mem_pieces, comparePieces, hnumbers]
  rfl

/-- **The natural order is a total order.** Turning a comparison around reverses its answer, only a
label is equal to itself, and the order is transitive. Where two labels start alike and go on with
numbers, the smaller number comes first, however many digits or zeros in front the numbers have. -/
theorem labels_totally_ordered :
    (∀ a b, naturalCompare a b = (naturalCompare b a).swap) ∧
    (∀ a b, naturalCompare a b = .eq ↔ a = b) ∧
    (∀ a b c, (naturalCompare a b).isLE → (naturalCompare b c).isLE →
      (naturalCompare a c).isLE) ∧
    ∀ front ds es back rest, DigitRun front ds back → DigitRun front es rest →
      Decimal.ofDigits ds < Decimal.ofDigits es →
      naturalCompare (String.ofList (front ++ ds ++ back))
        (String.ofList (front ++ es ++ rest)) = .lt := by
  refine ⟨fun _ _ => Std.OrientedCmp.eq_swap, fun _ _ => Std.LawfulEqCmp.compare_eq_iff_eq,
    fun _ _ _ => Std.TransCmp.isLE_trans, ?_⟩
  intro front ds es back rest hds hes h
  exact naturalCompare_of_digits hds hes h

/-- A greater number comes later though it has fewer digits, zeros in front counted. -/
theorem labels_totally_ordered_with_zeros : naturalCompare "Size 007b" "Size 10" = .lt := by
  have hseven : DigitRun "Size ".toList "007".toList "b".toList :=
    ⟨by decide, List.all_eq_true.mp (by decide), by simp [Text.isAsciiDigit],
      by simp [Text.isAsciiDigit]⟩
  have hten : DigitRun "Size ".toList "10".toList [] :=
    ⟨by decide, List.all_eq_true.mp (by decide), by simp [Text.isAsciiDigit], by simp⟩
  exact labels_totally_ordered.2.2.2 "Size ".toList "007".toList "10".toList "b".toList []
    hseven hten (by decide)

end Example

end LivePreview
