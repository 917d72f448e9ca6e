import LivePreview.Proofs.DeniedImport
import Mathlib.Data.Prod.Lex
import Mathlib.Order.Bounds.Basic
import Mathlib.Data.Nat.Find
/-!
# Positions in a source

An offset in bytes is read as the characters that end in front of it (`takeBytes`), and these as a
line and a column. Nothing of the offset is lost but what stands inside of a character or behind the
end: the text in front of the position is again those characters (`textBefore_behind`), so the
position leads back to the last boundary of a character that is not behind the offset. Each further
character moves the position on, within its line or to the next one (`behind_concat`), so later
boundaries have later positions (`positions_faithful`).

The position of a quoted text is looked for line by line, and on a line a pair of double quotes
comes before a pair of single ones, wherever the two stand. So the pair that is found stands on the
first line with any pair, and it is the first one of its kind there (`Preferred`). It is the first
pair of the whole source if and only if that one has double quotes or no pair of double quotes
follows on its line (`quoted_position_iff`).
-/
namespace LivePreview.Text.Position

/-! ## Bytes -/

/-- The number of bytes of characters in UTF-8. -/
def byteLength : List Char → Nat
  | [] => 0
  | c :: s => c.utf8Size + byteLength s

variable {s front rest before : List Char} {n : Nat}

theorem byteLength_cons (c : Char) (s : List Char) :
    byteLength (c :: s) = c.utf8Size + byteLength s := rfl

theorem byteLength_append (a b : List Char) :
    byteLength (a ++ b) = byteLength a + byteLength b := by
  induction a with
  | nil => simp [byteLength]
  | cons c a ih => rw [List.cons_append, byteLength_cons, byteLength_cons, ih, Nat.add_assoc]

theorem eq_nil_of_byteLength (h : byteLength s = 0) : s = [] := by
  cases s with
  | nil => rfl
  | cons c r =>
    have := c.utf8Size_pos
    rw [byteLength_cons] at h
    omega

theorem byteLength_toList (s : String) : byteLength s.toList = s.utf8ByteSize := by
  have hlist : ∀ r : List Char, byteLength r = (String.ofList r).utf8ByteSize := by
    intro r
    induction r with
    | nil => rfl
    | cons c r ih =>
      rw [byteLength_cons, ih, ← List.singleton_append, String.ofList_append,
        String.utf8ByteSize_append, ← String.singleton_eq_ofList, String.utf8ByteSize_singleton]
  rw [hlist, String.ofList_toList]

/-- An offset is a boundary of characters if the characters in front of it have that many bytes. -/
theorem isValid_iff {source : String} {b : Nat} :
    String.Pos.Raw.IsValid source ⟨b⟩ ↔
      ∃ front rest, source.toList = front ++ rest ∧ byteLength front = b := by
  rw [String.Pos.Raw.isValid_iff_exists_append]
  constructor
  · rintro ⟨x, y, rfl, hb⟩
    refine ⟨x.toList, y.toList, String.toList_append, ?_⟩
    rw [byteLength_toList]
    exact (congrArg String.Pos.Raw.byteIdx hb).symm
  · rintro ⟨front, rest, hsource, rfl⟩
    refine ⟨String.ofList front, String.ofList rest, ?_, ?_⟩
    · rw [← String.ofList_append, ← hsource, String.ofList_toList]
    · rw [String.Pos.Raw.ext_iff, String.byteIdx_rawEndPos, ← byteLength_toList,
        String.toList_ofList]

/-! ## The characters in front of an offset -/

theorem takeBytes_prefix (n : Nat) (s : List Char) : takeBytes n s <+: s := by
  induction s generalizing n with
  | nil => simp [takeBytes]
  | cons c r ih =>
    rw [takeBytes]
    split
    · exact List.cons_prefix_cons.mpr ⟨rfl, ih _⟩
    · exact List.nil_prefix

theorem byteLength_takeBytes_le (n : Nat) (s : List Char) : byteLength (takeBytes n s) ≤ n := by
  induction s generalizing n with
  | nil => simp [takeBytes, byteLength]
  | cons c r ih =>
    rw [takeBytes]
    split
    · have := ih (n - c.utf8Size)
      rw [byteLength_cons]
      omega
    · simp [byteLength]

/-- Whatever ends in front of the offset is among the characters that are taken. -/
theorem prefix_takeBytes (h : front <+: s) (hn : byteLength front ≤ n) :
    front <+: takeBytes n s := by
  induction front generalizing n s with
  | nil => exact List.nil_prefix
  | cons c front ih =>
    obtain ⟨rest, rfl⟩ := h
    rw [byteLength_cons] at hn
    rw [List.cons_append, takeBytes, if_pos (by omega)]
    exact List.cons_prefix_cons.mpr ⟨rfl, ih (List.prefix_append front rest) (by omega)⟩

theorem takeBytes_byteLength (front rest : List Char) :
    takeBytes (byteLength front) (front ++ rest) = front := by
  obtain ⟨more, hmore⟩ := prefix_takeBytes (List.prefix_append front rest) le_rfl
  have hle := byteLength_takeBytes_le (byteLength front) (front ++ rest)
  rw [← hmore, byteLength_append] at hle
  rw [← hmore, eq_nil_of_byteLength (s := more) (by omega), List.append_nil]

/-! ## The text in front of a position -/

/-- The lines of a text; there is always one more than there are line feeds. -/
abbrev lines (source : List Char) : List (List Char) := splitWhen (· == '\n') source

/-- The text in front of a position: the lines above with their line feeds, and as many characters
of its own line as the column says. -/
def textBefore (source : List Char) (p : Position) : List Char :=
  ((lines source).take (p.line - 1)).flatMap (· ++ ['\n']) ++
    ((lines source).getD (p.line - 1) []).take p.column

/-- The offset in bytes of a position. -/
def toByte (source : List Char) (p : Position) : Nat := byteLength (textBefore source p)

/-- Whether a text has a position: the line is one of its lines, and the column is not behind the
end of that line. -/
structure Within (p : Position) (source : List Char) : Prop where
  line_pos : 1 ≤ p.line
  line_le : p.line ≤ (lines source).length
  column_le : ∃ line, (lines source)[p.line - 1]? = some line ∧ p.column ≤ line.length

/-- The text in front of the position behind a text is that text. -/
theorem textBefore_behind (before rest : List Char) :
    textBefore (before ++ rest) (behind before) = before := by
  obtain ⟨w, ws, hrest⟩ := List.exists_cons_of_ne_nil (splitWhen_ne_nil (· == '\n') rest)
  obtain ⟨above, tail, hlines, hbefore, hline, hcolumn⟩ := exists_lines before hrest
  change lines (before ++ rest) = above ++ (tail ++ w) :: ws at hlines
  have habove : (behind before).line - 1 = above.length := by omega
  rw [textBefore, hlines, habove, List.take_left, ← hcolumn]
  simpa using hbefore

theorem within_behind (before rest : List Char) : (behind before).Within (before ++ rest) := by
  obtain ⟨w, ws, hrest⟩ := List.exists_cons_of_ne_nil (splitWhen_ne_nil (· == '\n') rest)
  obtain ⟨above, tail, hlines, -, hline, hcolumn⟩ := exists_lines before hrest
  change lines (before ++ rest) = above ++ (tail ++ w) :: ws at hlines
  have habove : (behind before).line - 1 = above.length := by omega
  refine ⟨by omega, ?_, tail ++ w, ?_, ?_⟩
  · rw [hlines, List.length_append, List.length_cons]
    omega
  · rw [hlines, habove]
    simp
  · rw [List.length_append]
    omega

/-! ## The order of positions -/

/-- Positions are ordered by their lines, and on a line by their columns. -/
def key (p : Position) : ℕ ×ₗ ℕ := toLex (p.line, p.column)

/-- A line feed leads to the start of the next line, and every other character along the line. -/
theorem behind_concat (before : List Char) (c : Char) :
    behind (before ++ [c]) =
      if c = '\n' then ⟨(behind before).line + 1, 0⟩
      else ⟨(behind before).line, (behind before).column + 1⟩ := by
  by_cases hc : c = '\n'
  · simp [behind, hc]
  · simp [behind, hc, List.count_append]

theorem key_lt_concat (before : List Char) (c : Char) :
    (behind before).key < (behind (before ++ [c])).key := by
  rw [behind_concat, key, key, Prod.Lex.toLex_lt_toLex]
  split
  · exact .inl (Nat.lt_succ_self _)
  · exact .inr ⟨rfl, Nat.lt_succ_self _⟩

theorem key_lt_append (before : List Char) (hrest : rest ≠ []) :
    (behind before).key < (behind (before ++ rest)).key := by
  induction rest generalizing before with
  | nil => exact absurd rfl hrest
  | cons c r ih =>
    have hstep := key_lt_concat before c
    cases r with
    | nil => exact hstep
    | cons d r =>
      have hmore := ih (before ++ [c]) (List.cons_ne_nil d r)
      rw [List.append_assoc] at hmore
      exact hstep.trans hmore

/-- The line and the column together count no character twice. -/
theorem line_add_column_le (before : List Char) :
    (behind before).line + (behind before).column ≤ before.length + 1 := by
  induction before using List.reverseRecOn with
  | nil => simp [behind]
  | append_singleton before c ih =>
    rw [behind_concat, List.length_append, List.length_singleton]
    split <;> (simp only; omega)

/-! ## Faithful positions -/

/-- The position of an offset is the one behind the characters in front of the offset. -/
theorem exists_atByte (source : List Char) (offset : Nat) :
    ∃ front rest, source = front ++ rest ∧ atByte source offset = behind front ∧
      byteLength front ≤ offset ∧
      ∀ x, x <+: source → byteLength x ≤ offset → byteLength x ≤ byteLength front := by
  obtain ⟨rest, hsource⟩ := takeBytes_prefix offset source
  refine ⟨takeBytes offset source, rest, hsource.symm, rfl, byteLength_takeBytes_le _ _, ?_⟩
  intro x hx hfits
  obtain ⟨more, hmore⟩ := prefix_takeBytes hx hfits
  rw [← hmore, byteLength_append]
  exact Nat.le_add_right _ _

/-- The way back from a position leads to the last boundary that the offset reaches. -/
theorem isGreatest_toByte (source : String) (offset : Nat) :
    IsGreatest {b | String.Pos.Raw.IsValid source ⟨b⟩ ∧ b ≤ min offset source.utf8ByteSize}
      (toByte source.toList (atByte source.toList offset)) := by
  obtain ⟨front, rest, hsource, hat, hfits, hlast⟩ := exists_atByte source.toList offset
  have hback : toByte source.toList (atByte source.toList offset) = byteLength front := by
    rw [hat, toByte, hsource, textBefore_behind]
  have hsize : byteLength front ≤ source.utf8ByteSize := by
    rw [← byteLength_toList, hsource, byteLength_append]
    exact Nat.le_add_right _ _
  rw [hback]
  constructor
  · exact ⟨isValid_iff.mpr ⟨front, rest, hsource, rfl⟩, le_min hfits hsize⟩
  · rintro b ⟨hvalid, hb⟩
    obtain ⟨x, y, hxy, rfl⟩ := isValid_iff.mp hvalid
    exact hlast x ⟨y, hxy.symm⟩ (hb.trans (min_le_left _ _))

/-- Of two boundaries, the later one has the later position. -/
theorem strictMonoOn_key (source : String) :
    StrictMonoOn (fun b => (atByte source.toList b).key)
      {b | String.Pos.Raw.IsValid source ⟨b⟩} := by
  intro a ha b hb hab
  obtain ⟨x, x', hx, rfl⟩ := isValid_iff.mp ha
  obtain ⟨y, y', hy, rfl⟩ := isValid_iff.mp hb
  -- the front with fewer bytes is a front of the other one
  have hxy : x <+: takeBytes (byteLength y) source.toList :=
    prefix_takeBytes ⟨x', hx.symm⟩ hab.le
  rw [hy, takeBytes_byteLength] at hxy
  obtain ⟨more, rfl⟩ := hxy
  have hmore : more ≠ [] := by
    rintro rfl
    simp at hab
  have hatx : atByte source.toList (byteLength x) = behind x := by
    rw [atByte, hx, takeBytes_byteLength]
  have haty : atByte source.toList (byteLength (x ++ more)) = behind (x ++ more) := by
    rw [atByte, hy, takeBytes_byteLength]
  show (atByte source.toList (byteLength x)).key <
    (atByte source.toList (byteLength (x ++ more))).key
  rw [hatx, haty]
  exact key_lt_append x hmore

/-- **The positions of byte offsets.** Each offset has a position that the text has, whose numbers
are together at most one more than the characters of the text. The position leads back to the last
boundary of characters up to the offset and the end of the text, and from one boundary to a later
one the position grows. -/
theorem positions_faithful (source : String) :
    (∀ offset,
      (atByte source.toList offset).Within source.toList ∧
      (atByte source.toList offset).line + (atByte source.toList offset).column ≤
        source.length + 1 ∧
      IsGreatest {b | String.Pos.Raw.IsValid source ⟨b⟩ ∧ b ≤ min offset source.utf8ByteSize}
        (toByte source.toList (atByte source.toList offset))) ∧
    StrictMonoOn (fun b => (atByte source.toList b).key)
      {b | String.Pos.Raw.IsValid source ⟨b⟩} := by
  constructor
  · intro offset
    obtain ⟨front, rest, hsource, hat, -, -⟩ := exists_atByte source.toList offset
    have hlength : front.length ≤ source.length := by
      rw [← String.length_toList, hsource, List.length_append]
      exact Nat.le_add_right _ _
    have hsum := line_add_column_le front
    refine ⟨?_, ?_, isGreatest_toByte source offset⟩
    · rw [hat, hsource]
      exact within_behind front rest
    · rw [hat]
      omega
  · exact strictMonoOn_key source

/-- An offset inside of a character has the position of the character. -/
example : (atByte "é\nß".toList 4, atByte "é\nß".toList 9) = (⟨2, 0⟩, ⟨2, 1⟩) := by decide

end LivePreview.Text.Position

/-! ## Quoted texts -/

namespace LivePreview.Text

/-- Nothing is cut in front of the first occurrence. -/
theorem cutChars?_first {sep s a b : List Char} (h : cutChars? sep s = some (a, b)) {k : Nat}
    (hk : sep <+: s.drop k) : a.length ≤ k := by
  induction s generalizing a k with
  | nil =>
    simp only [cutChars?] at h
    split at h <;> simp_all
  | cons c r ih =>
    simp only [cutChars?] at h
    cases hhere : afterChars? sep (c :: r) with
    | some rest =>
      obtain ⟨rfl, -⟩ : [] = a ∧ rest = b := by simpa [hhere] using h
      exact Nat.zero_le k
    | none =>
      rw [hhere] at h
      obtain ⟨p, hcut, he⟩ := Option.map_eq_some_iff.mp h
      obtain ⟨rfl, rfl⟩ := Prod.mk.inj he
      cases k with
      | zero =>
        obtain ⟨rest, hrest⟩ := hk
        have hsome := afterChars?_eq_some.mpr hrest.symm
        rw [List.drop_zero, hhere] at hsome
        cases hsome
      | succ k => exact Nat.succ_le_succ (ih hcut hk)

namespace Position

variable {text source l r : List Char} {q : Char} {k : Nat}

/-- At an offset of a source a text stands in a pair of quotes. -/
structure QuotedAt (text source : List Char) (q : Char) (k : Nat) : Prop where
  isQuote : q = '"' ∨ q = '\''
  stands : q :: text ++ [q] <+: source.drop k

/-- No pair of quotes around the text stands in front of this one. -/
structure Earliest (text source : List Char) (q : Char) (k : Nat) : Prop where
  quotedAt : QuotedAt text source q k
  le : ∀ {q' k'}, QuotedAt text source q' k' → k ≤ k'

/-- The pair of quotes stands on the first line with such a pair, has double quotes if any pair of
that line has, and is the first one of its kind there. -/
structure Preferred (text source : List Char) (q : Char) (k : Nat) : Prop where
  quotedAt : QuotedAt text source q k
  line_le : ∀ {q' k'}, QuotedAt text source q' k' →
    (atChar source k).line ≤ (atChar source k').line
  double : ∀ {k'}, QuotedAt text source '"' k' →
    (atChar source k').line = (atChar source k).line → q = '"'
  first : ∀ {k'}, QuotedAt text source q k' →
    (atChar source k').line = (atChar source k).line → k ≤ k'

/-! ## Offsets and lines -/

theorem QuotedAt.lt_length (h : QuotedAt text source q k) : k < source.length := by
  have hle := h.stands.length_le
  simp only [List.length_drop, List.length_append, List.length_cons, List.length_nil] at hle
  omega

theorem QuotedAt.not_mem (h : QuotedAt text source q k) (htext : '\n' ∉ text) :
    '\n' ∉ q :: text ++ [q] := by
  have hq : '\n' ≠ q := by
    rcases h.isQuote with rfl | rfl <;> decide
  simp [htext, hq]

theorem line_atChar_mono (source : List Char) {j k : Nat} (h : j ≤ k) :
    (atChar source j).line ≤ (atChar source k).line := by
  have hfront : source.take j <+: source.take k := List.take_prefix_take_left h
  exact Nat.succ_le_succ (hfront.sublist.count_le '\n')

/-- Different offsets have different positions. -/
theorem atChar_inj {j k : Nat} (hj : j ≤ source.length) (hk : k ≤ source.length)
    (h : atChar source j = atChar source k) : j = k := by
  have hback : ∀ i, textBefore source (atChar source i) = source.take i := fun i => by
    have hfront := textBefore_behind (source.take i) (source.drop i)
    rwa [List.take_append_drop] at hfront
  have htake := congrArg List.length ((hback j).symm.trans (h ▸ hback k))
  rw [List.length_take, List.length_take] at htake
  omega

/-- The position of the text is one column behind that of the quote. -/
theorem QuotedAt.atChar_succ (h : QuotedAt text source q k) :
    atChar source (k + 1) = ⟨(atChar source k).line, (atChar source k).column + 1⟩ := by
  obtain ⟨rest, hrest⟩ := h.stands
  have hhere : source[k]? = some q := by
    rw [← List.head?_drop, ← hrest]
    rfl
  have hq : q ≠ '\n' := by
    rcases h.isQuote with rfl | rfl <;> decide
  rw [atChar, List.take_add_one, hhere, Option.toList_some, behind_concat, if_neg hq]
  rfl

/-! ## Line by line -/

theorem behind_append_cons (l before : List Char) (hl : '\n' ∉ l) :
    behind (l ++ '\n' :: before) = ⟨(behind before).line + 1, (behind before).column⟩ := by
  induction before using List.reverseRecOn with
  | nil => simp [behind, List.count_eq_zero_of_not_mem hl]
  | append_singleton before c ih =>
    rw [← List.cons_append, ← List.append_assoc, behind_concat, behind_concat, ih]
    split <;> rfl

theorem atChar_append_cons (hl : '\n' ∉ l) (r : List Char) (k : Nat) :
    atChar (l ++ '\n' :: r) (l.length + 1 + k) =
      ⟨(atChar r k).line + 1, (atChar r k).column⟩ := by
  have htake : (l ++ '\n' :: r).take (l.length + 1 + k) = l ++ '\n' :: r.take k := by
    rw [Nat.add_assoc, List.take_length_add_append, Nat.add_comm 1 k, List.take_succ_cons]
  rw [atChar, htake, behind_append_cons l _ hl]
  rfl

theorem behind_of_not_mem (hl : '\n' ∉ l) : behind l = ⟨1, l.length⟩ := by
  induction l using List.reverseRecOn with
  | nil => rfl
  | append_singleton l c ih =>
    rw [List.mem_append, not_or, List.mem_singleton] at hl
    rw [behind_concat, ih hl.1, if_neg (Ne.symm hl.2), List.length_append, List.length_singleton]

/-- An offset on the first line. -/
theorem atChar_of_le (hl : '\n' ∉ l) (r : List Char) (hk : k ≤ l.length) :
    atChar (l ++ r) k = ⟨1, k⟩ := by
  have htake : '\n' ∉ l.take k := fun h => hl (List.mem_of_mem_take h)
  rw [atChar, List.take_append_of_le_length hk, behind_of_not_mem htake, List.length_take,
    Nat.min_eq_left hk]

/-- A piece of a text without a line feed lies in front of the first one or behind it. -/
theorem prefix_of_prefix_append_cons {w : List Char} (hw : '\n' ∉ w)
    (h : w <+: l ++ '\n' :: r) : w <+: l := by
  have hline : l ++ ['\n'] <+: l ++ '\n' :: r := ⟨r, by simp⟩
  rcases List.prefix_or_prefix_of_prefix h hline with hshort | hlong
  · rcases List.prefix_concat_iff.mp hshort with rfl | hshort
    · simp at hw
    · exact hshort
  · exact absurd (hlong.subset (by simp)) hw

/-- A quoted text stands on the first line of a source or behind it. -/
theorem quotedAt_append_cons (htext : '\n' ∉ text) :
    QuotedAt text (l ++ '\n' :: r) q k ↔
      QuotedAt text l q k ∨ ∃ j, k = l.length + 1 + j ∧ QuotedAt text r q j := by
  constructor
  · intro h
    have hstands := h.stands
    rcases Nat.lt_or_ge l.length k with hlt | hle
    · obtain ⟨j, rfl⟩ := Nat.exists_eq_add_of_le (show l.length + 1 ≤ k from hlt)
      rw [Nat.add_assoc, List.drop_length_add_append, Nat.add_comm 1 j, List.drop_succ_cons]
        at hstands
      exact .inr ⟨j, rfl, h.isQuote, hstands⟩
    · rw [List.drop_append_of_le_length hle] at hstands
      exact .inl ⟨h.isQuote, prefix_of_prefix_append_cons (h.not_mem htext) hstands⟩
  · rintro (h | ⟨j, rfl, h⟩)
    · refine ⟨h.isQuote, ?_⟩
      rw [List.drop_append_of_le_length h.lt_length.le]
      exact h.stands.trans (List.prefix_append _ _)
    · refine ⟨h.isQuote, ?_⟩
      rw [Nat.add_assoc, List.drop_length_add_append, Nat.add_comm 1 j, List.drop_succ_cons]
      exact h.stands

theorem lines_of_not_mem (hl : '\n' ∉ l) : lines l = [l] := by
  have hplain : ∀ c ∈ l, (c == '\n') = false := fun c hc => by
    simpa using fun h : c = '\n' => hl (h ▸ hc)
  simpa using splitWhen_append (b := []) hplain rfl

/-- A source is one line, or a line and what follows its line feed. -/
theorem lines_cases (s : List Char) :
    ('\n' ∉ s ∧ lines s = [s]) ∨
      ∃ l r, '\n' ∉ l ∧ s = l ++ '\n' :: r ∧ lines s = l :: lines r := by
  by_cases hs : '\n' ∈ s
  · obtain ⟨l, r, rfl, hl⟩ := List.eq_append_cons_of_mem hs
    have hsplit := splitWhen_append_cons (p := (· == '\n')) (c := '\n') rfl l r
    rw [show splitWhen (· == '\n') l = [l] from lines_of_not_mem hl] at hsplit
    exact .inr ⟨l, r, hl, rfl, hsplit⟩
  · exact .inl ⟨hs, lines_of_not_mem hs⟩

/-! ## The pair that is found -/

/-- On a line the first pair of double quotes is found, or else the first pair of single ones. -/
theorem quotedColumn?_cases (text line : List Char) :
    (quotedColumn? text line = none ∧ ∀ q k, ¬ QuotedAt text line q k) ∨
      ∃ q k, quotedColumn? text line = some k ∧ QuotedAt text line q k ∧
        (∀ j, QuotedAt text line '"' j → q = '"') ∧ ∀ j, QuotedAt text line q j → k ≤ j := by
  have hfound : ∀ {q : Char} {a b : List Char}, q = '"' ∨ q = '\'' →
      cutChars? (q :: text ++ [q]) line = some (a, b) →
      QuotedAt text line q a.length ∧ ∀ j, QuotedAt text line q j → a.length ≤ j := by
    intro q a b hq hcut
    refine ⟨⟨hq, b, ?_⟩, fun j hj => cutChars?_first hcut hj.stands⟩
    have hline := eq_append_of_cutChars? hcut
    rw [List.append_assoc] at hline
    exact (by rw [hline, List.drop_left])
  have hnone : ∀ {q : Char}, cutChars? (q :: text ++ [q]) line = none →
      ∀ k, ¬ QuotedAt text line q k := by
    intro q hcut k hk
    have hin : q :: text ++ [q] <:+: line := hk.stands.isInfix.trans (List.drop_suffix _ _).isInfix
    rw [← cutChars?_isSome, hcut] at hin
    cases hin
  unfold quotedColumn?
  cases hdouble : cutChars? ('"' :: text ++ ['"']) line with
  | some p =>
    obtain ⟨hat, hfirst⟩ := hfound (.inl rfl) hdouble
    exact .inr ⟨'"', p.1.length, rfl, hat, fun _ _ => rfl, hfirst⟩
  | none =>
    cases hsingle : cutChars? ('\'' :: text ++ ['\'']) line with
    | some p =>
      obtain ⟨hat, hfirst⟩ := hfound (.inr rfl) hsingle
      exact .inr ⟨'\'', p.1.length, rfl, hat, fun j hj => absurd hj (hnone hdouble j), hfirst⟩
    | none =>
      refine .inl ⟨rfl, fun q k hk => ?_⟩
      rcases hk.isQuote with rfl | rfl
      · exact hnone hdouble k hk
      · exact hnone hsingle k hk

/-- What comes first on the first line with any pair is preferred, if that is the first line. -/
theorem preferred_of_line (hl : '\n' ∉ l)
    (hin : ∀ {q k}, QuotedAt text (l ++ r) q k →
      QuotedAt text l q k ∨ 1 < (atChar (l ++ r) k).line)
    (hat : QuotedAt text l q k) (hdouble : ∀ j, QuotedAt text l '"' j → q = '"')
    (hfirst : ∀ j, QuotedAt text l q j → k ≤ j) : Preferred text (l ++ r) q k := by
  have hline : (atChar (l ++ r) k).line = 1 := by rw [atChar_of_le hl r hat.lt_length.le]
  have hthere : ∀ {q' j}, QuotedAt text (l ++ r) q' j →
      (atChar (l ++ r) j).line = (atChar (l ++ r) k).line → QuotedAt text l q' j := by
    intro q' j hj hsame
    rcases hin hj with hj | hj
    · exact hj
    · omega
  refine ⟨⟨hat.isQuote, ?_⟩, fun _ => ?_, fun hj hsame => hdouble _ (hthere hj hsame),
    fun hj hsame => hfirst _ (hthere hj hsame)⟩
  · rw [List.drop_append_of_le_length hat.lt_length.le]
    exact hat.stands.trans (List.prefix_append _ _)
  · rw [hline]
    exact Nat.succ_pos _

/-- What is preferred behind a line without any pair is preferred. -/
theorem Preferred.behind_line (htext : '\n' ∉ text) (hl : '\n' ∉ l)
    (hnone : ∀ q k, ¬ QuotedAt text l q k) (h : Preferred text r q k) :
    Preferred text (l ++ '\n' :: r) q (l.length + 1 + k) := by
  have hthere : ∀ {q' k'}, QuotedAt text (l ++ '\n' :: r) q' k' →
      ∃ j, k' = l.length + 1 + j ∧ QuotedAt text r q' j := fun hk' =>
    ((quotedAt_append_cons htext).mp hk').resolve_left (hnone _ _)
  have hline : ∀ j, (atChar (l ++ '\n' :: r) (l.length + 1 + j)).line = (atChar r j).line + 1 :=
    fun j => by rw [atChar_append_cons hl]
  refine ⟨(quotedAt_append_cons htext).mpr (.inr ⟨k, rfl, h.quotedAt⟩), fun hk' => ?_,
    fun hk' hsame => ?_, fun hk' hsame => ?_⟩
  · obtain ⟨j, rfl, hj⟩ := hthere hk'
    have := h.line_le hj
    rw [hline, hline]
    omega
  · obtain ⟨j, rfl, hj⟩ := hthere hk'
    rw [hline, hline] at hsame
    exact h.double hj (Nat.succ.inj hsame)
  · obtain ⟨j, rfl, hj⟩ := hthere hk'
    rw [hline, hline] at hsame
    have := h.first hj (Nat.succ.inj hsame)
    omega

/-- The pair that is found is preferred in the whole source. -/
theorem quoted?_cases (htext : '\n' ∉ text) (n : Nat) (source : List Char) :
    (quoted? text (n + 1) (lines source) = none ∧ ∀ q k, ¬ QuotedAt text source q k) ∨
      ∃ q k, Preferred text source q k ∧ quoted? text (n + 1) (lines source) =
        some ⟨n + (atChar source k).line, (atChar source k).column + 1⟩ := by
  generalize hls : lines source = ls
  induction ls generalizing source n with
  | nil => exact absurd hls (splitWhen_ne_nil _ source)
  | cons w ls ih =>
    rcases lines_cases source with ⟨hl, hlines⟩ | ⟨l, r, hl, rfl, hlines⟩
    · obtain ⟨rfl, rfl⟩ : source = w ∧ [] = ls := by simpa [hlines] using hls
      rcases quotedColumn?_cases text source with
        ⟨hcolumn, hnone⟩ | ⟨q, k, hcolumn, hat, hdouble, hfirst⟩
      · exact .inl ⟨by rw [quoted?, hcolumn, quoted?], hnone⟩
      · have hpreferred : Preferred text (source ++ []) q k :=
          preferred_of_line hl (fun h => .inl (by simpa using h)) hat hdouble hfirst
        have hposition := atChar_of_le hl [] hat.lt_length.le
        rw [List.append_nil] at hpreferred hposition
        exact .inr ⟨q, k, hpreferred, by rw [quoted?, hcolumn, hposition]⟩
    · obtain ⟨rfl, rfl⟩ : l = w ∧ lines r = ls := by simpa [hlines] using hls
      rcases quotedColumn?_cases text l with
        ⟨hcolumn, hnone⟩ | ⟨q, k, hcolumn, hat, hdouble, hfirst⟩
      · have hfound : quoted? text (n + 1) (l :: lines r) = quoted? text (n + 1 + 1) (lines r) := by
          rw [quoted?, hcolumn]
        rw [hfound]
        rcases ih (n + 1) r rfl with ⟨hrest, hnever⟩ | ⟨q, k, hpreferred, hrest⟩
        · refine .inl ⟨hrest, fun q k hk => ?_⟩
          rcases (quotedAt_append_cons htext).mp hk with hk | ⟨j, -, hj⟩
          · exact hnone q k hk
          · exact hnever q j hj
        · refine .inr ⟨q, _, hpreferred.behind_line htext hl hnone, ?_⟩
          rw [hrest, atChar_append_cons hl, Nat.add_right_comm]
          rfl
      · refine .inr ⟨q, k, preferred_of_line hl (fun h => ?_) hat hdouble hfirst, ?_⟩
        · rcases (quotedAt_append_cons htext).mp h with h | ⟨j, rfl, -⟩
          · exact .inl h
          · rw [atChar_append_cons hl]
            exact .inr (Nat.succ_lt_succ (Nat.succ_pos _))
        · rw [quoted?, hcolumn, atChar_of_le hl _ hat.lt_length.le]

/-- The position that is found for a text in quotes is that of the preferred pair. -/
theorem exists_preferred (htext : '\n' ∉ text) (h : QuotedAt text source q k) :
    ∃ q k, Preferred text source q k ∧ ofQuoted text source = atChar source (k + 1) := by
  rcases quoted?_cases htext 0 source with ⟨-, hnone⟩ | ⟨q, k, hpreferred, hfound⟩
  · exact absurd h (hnone q k)
  · refine ⟨q, k, hpreferred, ?_⟩
    rw [hpreferred.quotedAt.atChar_succ]
    unfold ofQuoted
    rw [show quoted? text 1 (splitWhen (· == '\n') source) = _ from hfound, Nat.zero_add]

/-! ## The earliest pair -/

theorem exists_earliest (h : QuotedAt text source q k) : ∃ q k, Earliest text source q k := by
  classical
  have hex : ∃ k q, QuotedAt text source q k := ⟨k, q, h⟩
  obtain ⟨q, hq⟩ := Nat.find_spec hex
  exact ⟨q, Nat.find hex, hq, fun hk' => Nat.find_min' hex ⟨_, hk'⟩⟩

/-- A pair of quotes is the earliest one if none of either kind stands in front of it. -/
theorem earliest_of_forall (h : QuotedAt text source q k)
    (hnone : ∀ j < k, ¬ '"' :: text ++ ['"'] <+: source.drop j ∧
      ¬ '\'' :: text ++ ['\''] <+: source.drop j) : Earliest text source q k := by
  refine ⟨h, fun {q' j} hj => Nat.le_of_not_lt fun hlt => ?_⟩
  obtain ⟨hdouble, hsingle⟩ := hnone j hlt
  rcases hj.isQuote with rfl | rfl
  · exact hdouble hj.stands
  · exact hsingle hj.stands

/-- The preferred pair is on the line of the earliest one. -/
theorem Preferred.line_eq {q' : Char} {k' : Nat} (h : Preferred text source q k)
    (h' : Earliest text source q' k') : (atChar source k').line = (atChar source k).line :=
  Nat.le_antisymm (line_atChar_mono source (h'.le h.quotedAt)) (h.line_le h'.quotedAt)

/-- Two texts in quotes have one position only if they are the same. -/
theorem QuotedAt.atChar_succ_inj {q' : Char} {k' : Nat} (h : QuotedAt text source q k)
    (h' : QuotedAt text source q' k') (heq : atChar source (k + 1) = atChar source (k' + 1)) :
    q = q' ∧ k = k' := by
  have hk := atChar_inj h.lt_length h'.lt_length heq
  obtain rfl : k = k' := Nat.succ.inj hk
  obtain ⟨r, hr⟩ := h.stands
  obtain ⟨r', hr'⟩ := h'.stands
  exact ⟨(List.cons.inj (hr.trans hr'.symm)).1, rfl⟩

/-- **Which of the places in quotes is found.** If a text without a line feed stands somewhere in
quotes, the position that is found is the one in its earliest pair of quotes if and only if that
pair has double quotes or no double quotes stand around the text on the same line. If some do, it is
the position in the first pair of double quotes. -/
theorem quoted_position_iff (htext : '\n' ∉ text) :
    ((∃ q k, QuotedAt text source q k) → ∃ q k, Earliest text source q k) ∧
      ∀ q k, Earliest text source q k →
        (ofQuoted text source = atChar source (k + 1) ↔
          ∀ j, QuotedAt text source '"' j →
            (atChar source j).line = (atChar source k).line → q = '"') ∧
        ∀ j, QuotedAt text source '"' j → (atChar source j).line = (atChar source k).line →
          (∀ i, QuotedAt text source '"' i → j ≤ i) →
          ofQuoted text source = atChar source (j + 1) := by
  refine ⟨fun ⟨q, k, h⟩ => exists_earliest h, fun q k h => ?_⟩
  obtain ⟨q', k', hpreferred, hfound⟩ := exists_preferred htext h.quotedAt
  have hline := hpreferred.line_eq h
  rw [hfound]
  refine ⟨⟨fun heq j hj hsame => ?_, fun hdouble => ?_⟩, fun j hj hsame hleast => ?_⟩
  · obtain ⟨rfl, rfl⟩ := hpreferred.quotedAt.atChar_succ_inj h.quotedAt heq
    exact hpreferred.double hj hsame
  · -- the earliest pair is of the preferred kind, so it is the first one of that kind on its line
    have hkind : q' = q := by
      rcases hpreferred.quotedAt.isQuote with rfl | rfl
      · exact (hdouble k' hpreferred.quotedAt hline.symm).symm
      · rcases h.quotedAt.isQuote with rfl | rfl
        · exact hpreferred.double h.quotedAt hline
        · rfl
    subst hkind
    rw [Nat.le_antisymm (hpreferred.first h.quotedAt hline) (h.le hpreferred.quotedAt)]
  · obtain rfl : q' = '"' := hpreferred.double hj (hsame.trans hline)
    rw [Nat.le_antisymm (hpreferred.first hj (hsame.trans hline))
      (hleast k' hpreferred.quotedAt)]

/-- The single quotes on the first line come before the double ones on the next line. -/
theorem quoted_position_of_lines :
    let text := "pad".toList
    let source := "let é; import 'pad';\nimport \"pad\";".toList
    Earliest text source '\'' 14 ∧ ofQuoted text source = ⟨1, 15⟩ := by
  intro text source
  have hearliest : Earliest text source '\'' 14 :=
    earliest_of_forall ⟨.inr rfl, by decide +kernel⟩ (by decide +kernel)
  have hline : ∀ j < source.length, '"' :: text ++ ['"'] <+: source.drop j →
      (atChar source j).line ≠ 1 := by decide +kernel
  have hfound := ((quoted_position_iff (by decide)).2 '\'' 14 hearliest).1.mpr
    fun j hj hsame => absurd hsame (hline j hj.lt_length hj.stands)
  exact ⟨hearliest, hfound.trans (by decide +kernel)⟩

/-- Double quotes are found although single ones stand in front of them on the line. -/
theorem quoted_position_behind_earliest :
    let text := "pad".toList
    let source := "import 'pad'; import \"pad\";".toList
    Earliest text source '\'' 7 ∧ atChar source 8 = ⟨1, 8⟩ ∧ ofQuoted text source = ⟨1, 22⟩ := by
  intro text source
  exact ⟨earliest_of_forall ⟨.inr rfl, by decide +kernel⟩ (by decide +kernel), by decide +kernel,
    by decide +kernel⟩

end Position

end LivePreview.Text
