import LivePreview.Json.Print
import LivePreview.Json.Read
import Mathlib.Tactic.SplitIfs
/-!
# Reading JSON text back

The texts of a value are given by a grammar in which gaps may stand between tokens (`Spells`). The
reader takes each of these texts for the value that it spells, and leaves what is behind it
(`Spells.readBack`); it never asks for more fuel than the text has characters. Both layouts are
spellings of a value that keeps to the limits of the reader (`Fits.spells_compact`,
`Fits.spells_pretty`), so either one is read as this value (`Fits.readDocument?_compact`,
`Fits.readDocument?_pretty`).

No double keeps to these limits: how a double is written and read is a matter of rounding, and no
record of the wire format holds one.
-/

namespace LivePreview.Json

/-! ## Numbers -/

/-- What may stand behind a value: nothing, a gap, a comma or a closing bracket. -/
def Ends (rest : List Char) : Prop :=
  ∀ c r, rest = c :: r → isGap c = true ∨ c = ',' ∨ c = ']' ∨ c = '}'

variable {rest : List Char} {n : Nat}

theorem isAsciiDigit_of_isGap {c : Char} (h : isGap c = true) : Text.isAsciiDigit c = false := by
  simp only [isGap, Bool.or_eq_true, beq_iff_eq] at h
  rcases h with ((rfl | rfl) | rfl) | rfl <;> rfl

theorem isGap_of_isAsciiDigit {c : Char} (h : Text.isAsciiDigit c = true) : isGap c = false := by
  cases hgap : isGap c with
  | false => rfl
  | true => exact absurd (isAsciiDigit_of_isGap hgap) (by simp [h])

theorem Ends.not_digit (h : Ends rest) {c : Char} {r : List Char} (hr : rest = c :: r) :
    Text.isAsciiDigit c = false := by
  rcases h c r hr with hc | rfl | rfl | rfl
  · exact isAsciiDigit_of_isGap hc
  all_goals rfl

/-- No fraction and no exponent can follow either. -/
theorem Ends.not_part (h : Ends rest) (r : List Char) :
    rest ≠ '.' :: r ∧ rest ≠ 'e' :: r ∧ rest ≠ 'E' :: r := by
  refine ⟨fun hr => ?_, fun hr => ?_, fun hr => ?_⟩ <;>
    simpa [isGap] using h _ _ hr

theorem isAsciiDigit_of_mem_digitsOf {c : Char} (h : c ∈ Decimal.digitsOf n) :
    Text.isAsciiDigit c = true :=
  Nat.isDigit_of_mem_toDigits (by decide) (by decide) h

/-- A number has digits. -/
theorem exists_digitsOf_eq_cons (n : Nat) :
    ∃ c ds, Decimal.digitsOf n = c :: ds ∧ Text.isAsciiDigit c = true := by
  obtain ⟨c, ds, hds⟩ := List.exists_cons_of_ne_nil (Nat.toDigits_ne_nil (n := n) (b := 10))
  exact ⟨c, ds, hds, isAsciiDigit_of_mem_digitsOf (n := n)
    (by rw [Decimal.digitsOf, hds]; exact List.mem_cons_self)⟩

theorem digitRun_append {ds : List Char} (hds : ∀ c ∈ ds, Text.isAsciiDigit c = true)
    (h : Ends rest) : digitRun (ds ++ rest) = (ds, rest) := by
  cases rest with
  | nil =>
    have htake : (ds ++ []).takeWhile Text.isAsciiDigit = _ := List.takeWhile_append_of_pos hds
    have hdrop : (ds ++ []).dropWhile Text.isAsciiDigit = _ := List.dropWhile_append_of_pos hds
    rw [digitRun, htake, hdrop]
    simp
  | cons c r =>
    have hc := h.not_digit rfl
    simp [digitRun, List.takeWhile_append_of_pos hds, List.dropWhile_append_of_pos hds, hc]

/-- A number without needless zeros starts with no zero, unless it is zero. -/
theorem digitsOf_ne_zero_cons (hn : n ≠ 0) {ds : List Char} : Decimal.digitsOf n ≠ '0' :: ds := by
  induction n using Nat.strongRecOn generalizing ds with
  | _ n ih =>
    rw [Decimal.digitsOf]
    by_cases hlt : n < 10
    · rw [Nat.toDigits_of_lt_base hlt]
      intro h
      have hhead : n.digitChar = '0' := (List.cons.inj h).1
      have := Nat.toNat_digitChar_sub_48_of_lt_ten hlt
      rw [hhead] at this
      exact hn this.symm
    · rw [Nat.toDigits_of_base_le (by decide) (by omega)]
      intro h
      have hrest : ∀ ds, Decimal.digitsOf (n / 10) ≠ '0' :: ds :=
        fun ds => ih (n / 10) (by omega) (by omega)
      cases hds : Nat.toDigits 10 (n / 10) with
      | nil => exact Nat.toDigits_ne_nil hds
      | cons c ds =>
        rw [hds] at h
        obtain ⟨rfl, -⟩ := List.cons.inj h
        exact hrest ds hds

theorem le_ofDigitChars (ds : List Char) (n : Nat) : n ≤ Nat.ofDigitChars 10 ds n := by
  induction ds generalizing n with
  | nil => exact Nat.le_refl n
  | cons d ds ih =>
    rw [Nat.ofDigitChars_cons]
    have := ih (10 * n + (d.toNat - '0'.toNat))
    omega

/-- Digits whose number fits 64 bits are all appended. -/
theorem growSignificand_eq {ds : List Char} (h : Nat.ofDigitChars 10 ds n < wordLimit) :
    growSignificand n ds = (Nat.ofDigitChars 10 ds n, ds.length) := by
  induction ds generalizing n with
  | nil => rfl
  | cons d ds ih =>
    rw [Nat.ofDigitChars_cons] at h ⊢
    have hfits := le_ofDigitChars ds (10 * n + (d.toNat - '0'.toNat))
    have hnext : 10 * n + (d.toNat - 48) < wordLimit := Nat.lt_of_le_of_lt hfits h
    rw [growSignificand, if_pos hnext]
    have hgrown : growSignificand (10 * n + (d.toNat - 48)) ds = _ := ih h
    rw [hgrown]
    rfl

/-- The digits of a number that fits 64 bits are read as this number. -/
theorem numberTail?_digitsOf (negative : Bool) (hn : n < wordLimit)
    (hneg : negative = true → n ≠ 0 ∧ n ≤ Nat.pow 2 63) (h : Ends rest) :
    numberTail? negative (Decimal.digitsOf n ++ rest) =
      some (int (if negative then -(n : Int) else n), rest) := by
  have hvalue : Nat.ofDigitChars 10 (Decimal.digitsOf n) 0 = n := Nat.ofDigitChars_ten_toDigits
  have hgrow : growSignificand 0 (Decimal.digitsOf n) = (n, (Decimal.digitsOf n).length) := by
    rw [growSignificand_eq (by rw [hvalue]; exact hn), hvalue]
  have hrun : digitRun (Decimal.digitsOf n ++ rest) = (Decimal.digitsOf n, rest) :=
    digitRun_append (fun c hc => isAsciiDigit_of_mem_digitsOf hc) h
  have hrest : digitRun ([] ++ rest) = ([], rest) :=
    digitRun_append (fun _ hc => absurd hc List.not_mem_nil) h
  obtain ⟨c, ds, hds, -⟩ := exists_digitsOf_eq_cons n
  have hne : Decimal.digitsOf n ≠ [] := by rw [hds]; exact List.cons_ne_nil c ds
  have hdot : ∀ r, rest ≠ '.' :: r := fun r => (h.not_part r).1
  have he : ∀ r, rest ≠ 'e' :: r := fun r => (h.not_part r).2.1
  have hE : ∀ r, rest ≠ 'E' :: r := fun r => (h.not_part r).2.2
  by_cases hzero : n = 0
  · subst hzero
    have hsplit : Decimal.digitsOf 0 = ['0'] := rfl
    rw [hsplit] at hgrow ⊢
    rw [List.singleton_append, numberTail?, if_pos (by rw [← List.nil_append rest, hrest])]
    simp only [Option.bind_eq_bind, Option.bind_some, hgrow, Nat.sub_self]
    exact if_pos ⟨trivial, trivial, trivial, hneg⟩
  · have hhead : ∀ r, Decimal.digitsOf n ++ rest = '0' :: r → False := by
      intro r hr
      rw [hds, List.cons_append] at hr
      rw [(List.cons.inj hr).1] at hds
      exact digitsOf_ne_zero_cons hzero hds
    rw [numberTail?.eq_2 _ _ hhead, hrun, if_neg hne]
    simp only [Option.bind_eq_bind, Option.bind_some, hgrow, Nat.sub_self]
    exact if_pos ⟨trivial, trivial, trivial, hneg⟩

/-! ## Strings -/

/-- The two digits of a control character have its number as their value. -/
theorem hexQuad?_hexPair : ∀ n < 32, ∀ a b, hexPair n = [a, b] →
    hexQuad? '0' '0' a b = some n := by
  intro n hn a b h
  simp only [hexPair, List.cons.injEq, and_true] at h
  obtain ⟨rfl, rfl⟩ := h
  revert n
  decide

/-- An escape of four digits that is no half of a pair stands for one character, whatever is
behind it. -/
theorem stringTail?_hex {a b c d : Char} {n : Nat} (hn : hexQuad? a b c d = some n)
    (hhigh : isHighHalf n = false) (hlow : isLowHalf n = false) (tail : List Char) :
    stringTail? ('\\' :: 'u' :: a :: b :: c :: d :: tail) =
      (stringTail? tail).map (consChar (Char.ofNat n)) := by
  have hsingle : ∀ t, stringTail?.unpaired n t = t.map (consChar (Char.ofNat n)) := fun t => by
    rw [stringTail?.unpaired, hhigh, hlow]
    rfl
  -- The reader looks for the second half of a pair before it knows that this is no first half.
  by_cases hpair : ∃ e f g h r, tail = '\\' :: 'u' :: e :: f :: g :: h :: r
  · obtain ⟨e, f, g, h, r, rfl⟩ := hpair
    rw [stringTail?, hn]
    cases hexQuad? e f g h with
    | none => exact hsingle _
    | some m =>
      simp only [hhigh, Bool.false_and, Bool.false_eq_true, if_false]
      exact hsingle _
  · rw [stringTail?.eq_4, hn]
    · exact hsingle _
    · intro e f g h r hr
      exact hpair ⟨e, f, g, h, r, hr⟩

/-- A character is read back from how it stands in a string. -/
theorem stringTail?_escapeChar (c : Char) (tail : List Char) :
    stringTail? (escapeChar c ++ tail) = (stringTail? tail).map (consChar c) := by
  unfold escapeChar
  split
  case h_6 hquote hback _ _ _ =>
    have hchar : ∀ {n}, c.toNat = n → c = Char.ofNat n := fun h => by rw [← h, Char.ofNat_toNat]
    split_ifs with h8 h12 h32
    · rw [hchar h8]
      simp [stringTail?, simpleEscape?]
    · rw [hchar h12]
      simp [stringTail?, simpleEscape?]
    · obtain ⟨a, b, hab⟩ : ∃ a b, hexPair c.toNat = [a, b] := ⟨_, _, rfl⟩
      have hquad := hexQuad?_hexPair c.toNat h32 a b hab
      have hhigh : isHighHalf c.toNat = false := by simp [isHighHalf]; omega
      have hlow : isLowHalf c.toNat = false := by simp [isLowHalf]; omega
      rw [hab]
      simpa using stringTail?_hex hquad hhigh hlow tail
    · have hplain : c ≠ '\\' := hback
      rw [List.singleton_append, stringTail?.eq_6 _ _ hquote (fun _ _ _ _ _ _ _ _ _ h _ => hback h)
        (fun _ _ _ _ _ h _ => hback h) (fun _ _ h _ => hback h)]
      simp [hplain, h32]
  all_goals simp [stringTail?, simpleEscape?]

/-- A text is read back from its string. -/
theorem stringTail?_flatMap (s rest : List Char) :
    stringTail? (s.flatMap escapeChar ++ '"' :: rest) = some (some s, rest) := by
  induction s with
  | nil => simp [stringTail?]
  | cons c s ih =>
    rw [List.flatMap_cons, List.append_assoc, stringTail?_escapeChar, ih]
    rfl

/-! ## Values -/

/-- What may stand between two tokens. -/
def Gap (g : List Char) : Prop := ∀ c ∈ g, isGap c = true

/-- What stands in brackets, or is a value by itself. -/
inductive Part where
  | value (j : Json)
  | elements (js : List Json)
  | members (ms : List (String × Json))

/-- The texts of a part in which containers nest at most to a depth. Gaps may stand around each
element, each key and each value of a member. -/
inductive Spells : Nat → Part → List Char → Prop where
  | nullWord {depth} : Spells depth (.value .null) ['n', 'u', 'l', 'l']
  | trueWord {depth} : Spells depth (.value (.bool true)) ['t', 'r', 'u', 'e']
  | falseWord {depth} : Spells depth (.value (.bool false)) ['f', 'a', 'l', 's', 'e']
  | nat {depth n} (h : n < wordLimit) : Spells depth (.value (.int (.ofNat n))) (Decimal.digitsOf n)
  | neg {depth n} (h : n < Nat.pow 2 63) :
      Spells depth (.value (.int (.negSucc n))) ('-' :: Decimal.digitsOf (n + 1))
  | str {depth s} : Spells depth (.value (.str s)) (quote s).toList
  | emptyArr {depth} : Spells (depth + 1) (.value (.arr [])) ['[', ']']
  | arr {depth js t} (h : Spells depth (.elements js) t) :
      Spells (depth + 1) (.value (.arr js)) ('[' :: (t ++ [']']))
  | emptyObj {depth} : Spells (depth + 1) (.value (.obj [])) ['\x7b', '\x7d']
  | obj {depth ms t} (h : Spells depth (.members ms) t) :
      Spells (depth + 1) (.value (.obj ms)) ('\x7b' :: (t ++ ['\x7d']))
  | lastElement {depth j g t g'} (hg : Gap g) (h : Spells depth (.value j) t) (hg' : Gap g') :
      Spells depth (.elements [j]) (g ++ (t ++ g'))
  | element {depth j js g t u} (hg : Gap g) (h : Spells depth (.value j) t)
      (hu : Spells depth (.elements js) u) : Spells depth (.elements (j :: js)) (g ++ (t ++ ',' :: u))
  | lastMember {depth k j g g₁ t g'} (hg : Gap g) (hg₁ : Gap g₁) (h : Spells depth (.value j) t)
      (hg' : Gap g') :
      Spells depth (.members [(k, j)]) (g ++ ((quote k).toList ++ ':' :: (g₁ ++ (t ++ g'))))
  | member {depth k j ms g g₁ t u} (hg : Gap g) (hg₁ : Gap g₁) (h : Spells depth (.value j) t)
      (hu : Spells depth (.members ms) u) :
      Spells depth (.members ((k, j) :: ms))
        (g ++ ((quote k).toList ++ ':' :: (g₁ ++ (t ++ ',' :: u))))

section Reading

theorem skipGap_append {g : List Char} (h : Gap g) (s : List Char) :
    skipGap (g ++ s) = skipGap s := by
  rw [skipGap, List.dropWhile_append_of_pos h]
  rfl

theorem skipGap_cons {c : Char} {r : List Char} (h : isGap c = false) :
    skipGap (c :: r) = c :: r := by
  simp [skipGap, h]

theorem skipGap_skipGap (s : List Char) : skipGap (skipGap s) = skipGap s := by
  induction s with
  | nil => rfl
  | cons c r ih =>
    by_cases hc : isGap c = true
    · have hskip : skipGap (c :: r) = skipGap r := by simp [skipGap, hc]
      rw [hskip, ih]
    · have hc : isGap c = false := by simpa using hc
      rw [skipGap_cons hc, skipGap_cons hc]

variable {fuel depth : Nat}

theorem value?_skipGap (s : List Char) : value? fuel depth (skipGap s) = value? fuel depth s := by
  cases fuel with
  | zero => rfl
  | succ fuel => simp only [value?, skipGap_skipGap]

theorem elements?_skipGap (s : List Char) :
    elements? fuel depth (skipGap s) = elements? fuel depth s := by
  cases fuel with
  | zero => rfl
  | succ fuel => simp only [elements?, value?_skipGap]

theorem members?_skipGap (s : List Char) :
    members? fuel depth (skipGap s) = members? fuel depth s := by
  cases fuel with
  | zero => rfl
  | succ fuel => simp only [members?, skipGap_skipGap]

/-- A gap in front of a value does not count. -/
theorem value?_gap {g : List Char} (hg : Gap g) (s : List Char) :
    value? fuel depth (g ++ s) = value? fuel depth s := by
  rw [← value?_skipGap, skipGap_append hg, value?_skipGap]

/-- Reading gives a part back; what is behind it is left over. -/
def Part.ReadBack (fuel depth : Nat) (t : List Char) : Part → Prop
  | .value j => t.length ≤ fuel → ∀ rest, Ends rest → value? fuel depth (t ++ rest) = some (j, rest)
  | .elements js =>
    t.length < fuel → ∀ rest, elements? fuel depth (t ++ ']' :: rest) = some (js, rest)
  | .members ms =>
    t.length < fuel → ∀ rest, members? fuel depth (t ++ '\x7d' :: rest) =
      some (ms.map fun m => (some m.1, m.2), rest)

theorem quote_toList (s : String) :
    (quote s).toList = '"' :: (s.toList.flatMap escapeChar ++ ['"']) := by
  simp [quote]

/-- A value starts with a character that is no gap and closes nothing. -/
theorem Spells.opens {j : Json} {t : List Char} (h : Spells depth (.value j) t) :
    ∃ c r, t = c :: r ∧ isGap c = false ∧ c ≠ ']' := by
  cases h with
  | @nat _ n _ =>
    obtain ⟨c, r, hr, hdigit⟩ := exists_digitsOf_eq_cons n
    refine ⟨c, r, hr, isGap_of_isAsciiDigit hdigit, ?_⟩
    rintro rfl
    exact absurd hdigit (by decide)
  | str => exact ⟨_, _, quote_toList _, rfl, by decide⟩
  | _ => exact ⟨_, _, rfl, rfl, by decide⟩

/-! Each lemma below is one step of the reader. -/

theorem value?_digit {c : Char} (hc : Text.isAsciiDigit c = true) (r : List Char) :
    value? (fuel + 1) depth (c :: r) = numberTail? false (c :: r) := by
  have hne : ∀ x : Char, Text.isAsciiDigit x = false → c ≠ x := by
    rintro x hx rfl
    rw [hx] at hc
    exact Bool.false_ne_true hc
  rw [value?, skipGap_cons (isGap_of_isAsciiDigit hc)]
  have hquote : c ≠ '"' := hne _ rfl
  have hbracket : c ≠ '[' := hne _ rfl
  have hbrace : c ≠ '\x7b' := hne _ rfl
  have hminus : c ≠ '-' := hne _ rfl
  simp only [hc, if_true]

theorem value?_minus (r : List Char) :
    value? (fuel + 1) depth ('-' :: r) = numberTail? true r := by
  simp [value?, skipGap, isGap]

theorem value?_arr {s : List Char} (h : ∀ r, skipGap s ≠ ']' :: r) :
    value? (fuel + 1) (depth + 1) ('[' :: s) =
      (elements? fuel depth s).map fun p => (arr p.1, p.2) := by
  rw [value?, skipGap_cons (by rfl)]
  simp [elements?_skipGap, nested]

theorem value?_obj {s : List Char} (h : ∀ r, skipGap s ≠ '\x7d' :: r) :
    value? (fuel + 1) (depth + 1) ('\x7b' :: s) =
      (members? fuel depth s).map fun p => (objectValue p.1, p.2) := by
  rw [value?, skipGap_cons (by rfl)]
  simp [members?_skipGap, nested]

variable {s r u rest : List Char} {j : Json}

theorem elements?_last (hj : value? fuel depth s = some (j, r)) (hr : skipGap r = ']' :: rest) :
    elements? (fuel + 1) depth s = some ([j], rest) := by
  rw [elements?, hj]
  simp [hr]

theorem elements?_more {js : List Json} (hj : value? fuel depth s = some (j, r))
    (hr : skipGap r = ',' :: u) (hu : elements? fuel depth u = some (js, rest)) :
    elements? (fuel + 1) depth s = some (j :: js, rest) := by
  rw [elements?, hj]
  simp [hr, hu]

theorem members?_last {k : String} (hj : value? fuel depth s = some (j, r))
    (hr : skipGap r = '\x7d' :: rest) :
    members? (fuel + 1) depth ((quote k).toList ++ ':' :: s) = some ([(some k, j)], rest) := by
  rw [members?, quote_toList]
  simp [skipGap_cons, isGap, stringTail?_flatMap, hj, hr]

theorem members?_more {k : String} {ms : List (Option String × Json)}
    (hj : value? fuel depth s = some (j, r)) (hr : skipGap r = ',' :: u)
    (hu : members? fuel depth u = some (ms, rest)) :
    members? (fuel + 1) depth ((quote k).toList ++ ':' :: s) = some ((some k, j) :: ms, rest) := by
  rw [members?, quote_toList]
  simp [skipGap_cons, isGap, stringTail?_flatMap, hj, hr, hu]

theorem members?_gap {g : List Char} (hg : Gap g) (s : List Char) :
    members? fuel depth (g ++ s) = members? fuel depth s := by
  rw [← members?_skipGap, skipGap_append hg, members?_skipGap]

theorem elements?_gap {g : List Char} (hg : Gap g) (s : List Char) :
    elements? fuel depth (g ++ s) = elements? fuel depth s := by
  rw [← elements?_skipGap, skipGap_append hg, elements?_skipGap]

/-! ### Reading what is spelled -/

theorem Ends.comma (rest : List Char) : Ends (',' :: rest) := by
  intro c r h
  exact .inr (.inl (List.cons.inj h).1.symm)

/-- A gap, and then a closing bracket. -/
theorem Ends.close {g : List Char} (hg : Gap g) {c : Char} (hc : c = ']' ∨ c = '\x7d')
    (rest : List Char) : Ends (g ++ c :: rest) := by
  intro b r h
  cases g with
  | nil =>
    obtain ⟨rfl, -⟩ := List.cons.inj h
    exact .inr (.inr hc)
  | cons a g =>
    obtain ⟨rfl, -⟩ := List.cons.inj h
    exact .inl (hg a List.mem_cons_self)

/-- What is spelled does not start with its closing bracket. -/
theorem Spells.skipGap_elements {js : List Json} {t : List Char}
    (h : Spells depth (.elements js) t) (rest : List Char) :
    ∀ r, skipGap (t ++ rest) ≠ ']' :: r := by
  have hopens : ∀ {g u v : List Char} {j : Json}, Gap g → Spells depth (.value j) u →
      ∀ r, skipGap (g ++ (u ++ v) ++ rest) ≠ ']' :: r := by
    intro g u v j hg hu r
    obtain ⟨c, u, rfl, hgap, hne⟩ := hu.opens
    rw [List.append_assoc, skipGap_append hg, List.cons_append, List.cons_append,
      skipGap_cons hgap]
    exact fun heq => hne (List.cons.inj heq).1
  cases h with
  | lastElement hg hu _ => exact hopens hg hu
  | element hg hu _ => exact hopens hg hu

theorem Spells.skipGap_members {ms : List (String × Json)} {t : List Char}
    (h : Spells depth (.members ms) t) (rest : List Char) :
    ∀ r, skipGap (t ++ rest) ≠ '\x7d' :: r := by
  have hopens : ∀ {g u : List Char} {k : String}, Gap g →
      ∀ r, skipGap (g ++ ((quote k).toList ++ u) ++ rest) ≠ '\x7d' :: r := by
    intro g u k hg r
    rw [List.append_assoc, skipGap_append hg, quote_toList, List.cons_append, List.cons_append,
      skipGap_cons rfl]
    exact fun heq => absurd (List.cons.inj heq).1 (by decide)
  cases h with
  | lastMember hg _ _ _ => exact hopens hg
  | member hg _ _ _ => exact hopens hg

/-- A function that undoes another one on each member undoes it on a list. -/
theorem mapM_map_of_undone {α β : Type} {encode : α → β} {decode : β → Option α}
    (h : ∀ a, decode (encode a) = some a) (xs : List α) : (xs.map encode).mapM decode = some xs := by
  induction xs with
  | nil => rfl
  | cons x xs ih =>
    rw [List.map_cons, List.mapM_cons, h x, ih]
    rfl

theorem objectValue_of_keys (ms : List (String × Json)) :
    objectValue (ms.map fun m => (some m.1, m.2)) = obj ms := by
  have hkeys : (ms.map fun m => ((some m.1, m.2) : Option String × Json)).mapM
      (fun m => m.1.map fun k => (k, m.2)) = some ms := by
    apply mapM_map_of_undone
    intro m
    rfl
  rw [objectValue, hkeys]

/-- Each spelling is read as what it spells. -/
theorem Spells.readBack {p : Part} {t : List Char} (h : Spells depth p t) :
    ∀ fuel, p.ReadBack fuel depth t := by
  intro fuel
  -- along the grammar: each rule takes at least one character, which pays for the reader's step
  induction h generalizing fuel with
  | nullWord | trueWord | falseWord =>
    intro hfuel rest _
    obtain ⟨fuel, rfl⟩ : ∃ m, fuel = m + 1 := ⟨fuel - 1, by simp at hfuel; omega⟩
    simp [value?, skipGap, isGap, Text.isAsciiDigit, word?]
  | @nat _ n hn =>
    intro hfuel rest hrest
    obtain ⟨c, r, hr, hdigit⟩ := exists_digitsOf_eq_cons n
    have hread := numberTail?_digitsOf false hn (by simp) hrest
    rw [hr] at hfuel hread ⊢
    obtain ⟨fuel, rfl⟩ : ∃ m, fuel = m + 1 := ⟨fuel - 1, by simp at hfuel; omega⟩
    rw [List.cons_append, value?_digit hdigit, ← List.cons_append, hread]
    rfl
  | @neg _ n hn =>
    intro hfuel rest hrest
    obtain ⟨fuel, rfl⟩ : ∃ m, fuel = m + 1 := ⟨fuel - 1, by simp at hfuel; omega⟩
    rw [List.cons_append, value?_minus]
    rw [numberTail?_digitsOf true ?_ ?_ hrest]
    · rfl
    · have : Nat.pow 2 63 < wordLimit := by decide
      omega
    · exact fun _ => ⟨by omega, hn⟩
  | str =>
    intro hfuel rest _
    rw [quote_toList] at hfuel ⊢
    obtain ⟨fuel, rfl⟩ : ∃ m, fuel = m + 1 := ⟨fuel - 1, by simp at hfuel; omega⟩
    simp [value?, skipGap, isGap, stringTail?_flatMap, stringValue]
  | emptyArr | emptyObj =>
    intro hfuel rest _
    obtain ⟨fuel, rfl⟩ : ∃ m, fuel = m + 1 := ⟨fuel - 1, by simp at hfuel; omega⟩
    simp [value?, skipGap, isGap, nested]
  | @arr depth js t h ih =>
    intro hfuel rest _
    obtain ⟨fuel, rfl⟩ : ∃ m, fuel = m + 1 := ⟨fuel - 1, by simp at hfuel; omega⟩
    have hread := ih fuel (by simp at hfuel; omega) rest
    rw [List.cons_append, List.append_assoc, List.singleton_append,
      value?_arr (h.skipGap_elements _), hread]
    rfl
  | @obj depth ms t h ih =>
    intro hfuel rest _
    obtain ⟨fuel, rfl⟩ : ∃ m, fuel = m + 1 := ⟨fuel - 1, by simp at hfuel; omega⟩
    have hread := ih fuel (by simp at hfuel; omega) rest
    rw [List.cons_append, List.append_assoc, List.singleton_append,
      value?_obj (h.skipGap_members _), hread, Option.map_some, objectValue_of_keys]
  | @lastElement depth j g t g' hg h hg' ih =>
    intro hfuel rest
    obtain ⟨fuel, rfl⟩ : ∃ m, fuel = m + 1 := ⟨fuel - 1, by omega⟩
    have hread := ih fuel (by simp at hfuel; omega) (g' ++ ']' :: rest)
      (.close hg' (.inl rfl) rest)
    rw [List.append_assoc, List.append_assoc, elements?_gap hg]
    exact elements?_last hread (by rw [skipGap_append hg', skipGap_cons rfl])
  | @element depth j js g t u hg h hu ih ihu =>
    intro hfuel rest
    obtain ⟨fuel, rfl⟩ : ∃ m, fuel = m + 1 := ⟨fuel - 1, by omega⟩
    have hread := ih fuel (by simp at hfuel; omega) (',' :: (u ++ ']' :: rest)) (.comma _)
    have hrest := ihu fuel (by simp at hfuel; omega) rest
    rw [List.append_assoc, List.append_assoc, elements?_gap hg]
    exact elements?_more hread (skipGap_cons rfl) hrest
  | @lastMember depth k j g g₁ t g' hg hg₁ h hg' ih =>
    intro hfuel rest
    obtain ⟨fuel, rfl⟩ : ∃ m, fuel = m + 1 := ⟨fuel - 1, by omega⟩
    have hread := ih fuel (by simp at hfuel; omega) (g' ++ '\x7d' :: rest)
      (.close hg' (.inr rfl) rest)
    rw [← value?_gap hg₁] at hread
    rw [List.append_assoc, members?_gap hg]
    simp only [List.append_assoc, List.cons_append]
    exact members?_last hread (by rw [skipGap_append hg', skipGap_cons rfl])
  | @member depth k j ms g g₁ t u hg hg₁ h hu ih ihu =>
    intro hfuel rest
    obtain ⟨fuel, rfl⟩ : ∃ m, fuel = m + 1 := ⟨fuel - 1, by omega⟩
    have hread := ih fuel (by simp at hfuel; omega) (',' :: (u ++ '\x7d' :: rest)) (.comma _)
    have hrest := ihu fuel (by simp at hfuel; omega) rest
    rw [← value?_gap hg₁] at hread
    rw [List.append_assoc, members?_gap hg]
    simp only [List.append_assoc, List.cons_append]
    exact members?_more hread (skipGap_cons rfl) hrest

/-- A document may have gaps around its value. -/
theorem readDocument?_of_spells {j : Json} {text : String}
    (h : Spells depthLimit (.value j) text.toList) : readDocument? text = some j := by
  have hread := h.readBack (2 * text.toList.length + 2) (by omega) [] (fun _ _ h => by simp at h)
  rw [List.append_nil] at hread
  rw [readDocument?, hread]
  rfl

end Reading

/-! ## Both layouts are spellings -/

/-- Values whose text is read as the same value: no doubles, whole numbers of 64 bits, and
containers that nest at most to a depth. -/
inductive Fits : Nat → Json → Prop where
  | null {depth} : Fits depth .null
  | bool {depth} (b : Bool) : Fits depth (.bool b)
  | nat {depth n} (h : n < wordLimit) : Fits depth (.int (.ofNat n))
  | neg {depth n} (h : n < Nat.pow 2 63) : Fits depth (.int (.negSucc n))
  | str {depth} (s : String) : Fits depth (.str s)
  | arr {depth js} (h : ∀ j ∈ js, Fits depth j) : Fits (depth + 1) (.arr js)
  | obj {depth ms} (h : ∀ m ∈ ms, Fits depth m.2) : Fits (depth + 1) (.obj ms)

theorem compactElements_eq_map (js : List Json) : compactElements js = js.map compact := by
  induction js with
  | nil => rfl
  | cons j js ih => rw [compactElements, ih, List.map_cons]

theorem compactMembers_eq_map (ms : List (String × Json)) :
    compactMembers ms = ms.map fun m => quote m.1 ++ ":" ++ compact m.2 := by
  induction ms with
  | nil => rfl
  | cons m ms ih => rw [compactMembers, ih, List.map_cons]

theorem prettyElements_eq_map (n : Nat) (js : List Json) :
    prettyElements n js = js.map (prettyAt n) := by
  induction js with
  | nil => rfl
  | cons j js ih => rw [prettyElements, ih, List.map_cons]

theorem prettyMembers_eq_map (n : Nat) (ms : List (String × Json)) :
    prettyMembers n ms = ms.map fun m => quote m.1 ++ ": " ++ prettyAt n m.2 := by
  induction ms with
  | nil => rfl
  | cons m ms ih => rw [prettyMembers, ih, List.map_cons]

theorem gap_breakLine (n : Nat) : Gap (breakLine n).toList := by
  intro c hc
  have hc : c ∈ '\n' :: List.replicate (2 * n) ' ' := by simpa [breakLine] using hc
  rcases List.mem_cons.1 hc with rfl | hc
  · rfl
  · rw [List.eq_of_mem_replicate hc]
    rfl

theorem gap_empty : Gap "".toList :=
  fun _ hc => absurd hc List.not_mem_nil

theorem gap_blank : Gap " ".toList := by
  intro c hc
  rw [List.mem_singleton.1 hc]
  rfl

section Layouts

variable {depth : Nat} {g g' : String} {text : Json → String}

/-- Elements with commas between them, a gap in front of each, and a gap behind the last. -/
theorem spells_elements (hg : Gap g.toList) (hg' : Gap g'.toList) {js : List Json} (hne : js ≠ [])
    (h : ∀ j ∈ js, Spells depth (.value j) (text j).toList) :
    Spells depth (.elements js)
      (g ++ Text.joinWith ("," ++ g) (js.map text) ++ g').toList := by
  induction js with
  | nil => exact absurd rfl hne
  | cons j js ih =>
    have hj := h j List.mem_cons_self
    cases js with
    | nil => simpa [Text.joinWith] using Spells.lastElement hg hj hg'
    | cons k js =>
      have hrest := ih (List.cons_ne_nil k js) fun i hi => h i (List.mem_cons_of_mem j hi)
      simpa [Text.joinWith] using Spells.element hg hj hrest

/-- Members with commas between them, a gap in front of each and of its value, and a gap behind
the last. -/
theorem spells_members {g₁ : String} (hg : Gap g.toList) (hg₁ : Gap g₁.toList)
    (hg' : Gap g'.toList) {ms : List (String × Json)} (hne : ms ≠ [])
    (h : ∀ m ∈ ms, Spells depth (.value m.2) (text m.2).toList) :
    Spells depth (.members ms)
      (g ++ Text.joinWith ("," ++ g) (ms.map fun m => quote m.1 ++ (":" ++ g₁) ++ text m.2) ++
        g').toList := by
  induction ms with
  | nil => exact absurd rfl hne
  | cons m ms ih =>
    have hm := h m List.mem_cons_self
    cases ms with
    | nil => simpa [Text.joinWith] using Spells.lastMember hg hg₁ hm hg'
    | cons n ms =>
      have hrest := ih (List.cons_ne_nil n ms) fun i hi => h i (List.mem_cons_of_mem m hi)
      simpa [Text.joinWith] using Spells.member hg hg₁ hm hrest

theorem Fits.spells_compact {j : Json} (h : Fits depth j) :
    Spells depth (.value j) j.compact.toList := by
  induction h with
  | null => exact .nullWord
  | bool b => cases b with
    | true => exact .trueWord
    | false => exact .falseWord
  | nat hn => simpa [compact, renderInt] using Spells.nat hn
  | neg hn => simpa [compact, renderInt] using Spells.neg hn
  | str s => exact .str
  | @arr depth js _ ih =>
    rw [compact, compactElements_eq_map]
    by_cases hne : js = []
    · subst hne
      exact .emptyArr
    · simpa using Spells.arr (spells_elements gap_empty gap_empty hne ih)
  | @obj depth ms _ ih =>
    rw [compact, compactMembers_eq_map]
    by_cases hne : ms = []
    · subst hne
      exact .emptyObj
    · have hspells := spells_members gap_empty gap_empty gap_empty hne ih
      simpa using Spells.obj hspells

theorem Fits.spells_pretty {j : Json} (h : Fits depth j) (n : Nat) :
    Spells depth (.value j) (prettyAt n j).toList := by
  induction h generalizing n with
  | @arr depth js _ ih =>
    rw [prettyAt, prettyElements_eq_map]
    by_cases hne : js = []
    · subst hne
      simpa [bracketLines] using Spells.emptyArr
    · have hspells := spells_elements (gap_breakLine (n + 1)) (gap_breakLine n) hne
        fun j hj => ih j hj (n + 1)
      simpa [bracketLines, hne] using Spells.arr hspells
  | @obj depth ms _ ih =>
    rw [prettyAt, prettyMembers_eq_map]
    by_cases hne : ms = []
    · subst hne
      simpa [bracketLines] using Spells.emptyObj
    · have hspells := spells_members (gap_breakLine (n + 1)) gap_blank
        (gap_breakLine n) hne fun m hm => ih m hm (n + 1)
      simpa [bracketLines, hne] using Spells.obj hspells
  | null => exact Fits.null.spells_compact
  | bool b => exact (Fits.bool b).spells_compact
  | nat hn => exact (Fits.nat hn).spells_compact
  | neg hn => exact (Fits.neg hn).spells_compact
  | str s => exact (Fits.str s).spells_compact

/-- The compact text of a value is read as this value. -/
theorem Fits.readDocument?_compact {j : Json} (h : Fits depthLimit j) :
    readDocument? j.compact = some j :=
  readDocument?_of_spells h.spells_compact

/-- So is the indented text. -/
theorem Fits.readDocument?_pretty {j : Json} (h : Fits depthLimit j) :
    readDocument? j.pretty = some j :=
  readDocument?_of_spells (h.spells_pretty 0)

end Layouts

end LivePreview.Json
