/-!
# Blanks

The characters with the Unicode property `White_Space`, and the three things the preview does with
them: trimming a text, testing whether it is blank, and cutting it into its words.
The words of a text hold no blank, and none of them is empty.
-/

namespace LivePreview.Text

/-- The characters with the Unicode property `White_Space`. -/
def isBlank (c : Char) : Bool :=
  let n := c.toNat
  (9 ≤ n && n ≤ 13) || n == 0x20 || n == 0x85 || n == 0xA0 || n == 0x1680 ||
    (0x2000 ≤ n && n ≤ 0x200A) || n == 0x2028 || n == 0x2029 || n == 0x202F ||
    n == 0x205F || n == 0x3000

/-- Cuts a text at every character that satisfies `p`; the cut characters are dropped. There is
always one piece more than there are cuts. -/
def splitWhen (p : Char → Bool) : List Char → List (List Char)
  | [] => [[]]
  | c :: r =>
    if p c then [] :: splitWhen p r
    else
      match splitWhen p r with
      | [] => [[c]]
      | w :: ws => (c :: w) :: ws

/-- The longest pieces of a text without a blank, in order. -/
def blankSeparated (s : List Char) : List (List Char) :=
  (splitWhen isBlank s).filter (· ≠ [])

/-- The words of a text: its longest pieces without a blank, in order. -/
def words (s : String) : List String :=
  (blankSeparated s.toList).map String.ofList

/-- Drops blanks at the end. -/
def trimEndChars (s : List Char) : List Char :=
  (s.reverse.dropWhile isBlank).reverse

/-- Drops blanks at both ends. -/
def trimChars (s : List Char) : List Char :=
  trimEndChars (s.dropWhile isBlank)

/-- Drops blanks at the end. -/
def trimEnd (s : String) : String :=
  String.ofList (trimEndChars s.toList)

/-- Drops blanks at both ends. -/
def trim (s : String) : String :=
  String.ofList (trimChars s.toList)

/-- Whether a text consists of blanks only; the empty text does. -/
def blank (s : String) : Bool :=
  s.toList.all isBlank

theorem splitWhen_ne_nil (p : Char → Bool) (s : List Char) : splitWhen p s ≠ [] := by
  cases s with
  | nil => simp [splitWhen]
  | cons c r =>
    unfold splitWhen
    split
    · simp
    · split <;> simp

/-- No piece holds a character at which the text was cut. -/
theorem not_of_mem_splitWhen {p : Char → Bool} {s w : List Char} (h : w ∈ splitWhen p s) :
    ∀ c ∈ w, p c = false := by
  induction s generalizing w with
  | nil =>
    have : w = [] := by simpa [splitWhen] using h
    simp [this]
  | cons c r ih =>
    unfold splitWhen at h
    split at h
    · rcases List.mem_cons.1 h with rfl | h
      · simp
      · exact ih h
    · rename_i hc
      split at h
      · rename_i hs
        exact absurd hs (splitWhen_ne_nil p r)
      · rename_i v vs hs
        rcases List.mem_cons.1 h with rfl | h
        · intro d hd
          rcases List.mem_cons.1 hd with rfl | hd
          · simpa using hc
          · exact ih (hs ▸ List.mem_cons_self) d hd
        · exact ih (hs ▸ List.mem_cons_of_mem _ h)

/-- Texts that are joined by a cut are cut one by one. -/
theorem splitWhen_append_cons {p : Char → Bool} {c : Char} (hc : p c = true) (a b : List Char) :
    splitWhen p (a ++ c :: b) = splitWhen p a ++ splitWhen p b := by
  induction a with
  | nil => simp [splitWhen, hc]
  | cons d r ih =>
    rw [List.cons_append, splitWhen, splitWhen, ih]
    split
    · rfl
    · split
      · rename_i hnil
        exact absurd (List.append_eq_nil_iff.mp hnil).1 (splitWhen_ne_nil p r)
      · rename_i v ws hsplit
        cases hr : splitWhen p r with
        | nil => exact absurd hr (splitWhen_ne_nil p r)
        | cons w rest =>
          obtain ⟨rfl, rfl⟩ : w = v ∧ rest ++ splitWhen p b = ws := by simpa [hr] using hsplit
          rfl

end LivePreview.Text
