import LivePreview.Style.Candidate
/-!
# The parts of a candidate

The colons of a candidate that stand outside of brackets cut it into the names of its variants and
its class (`Candidate.Cut`). Behind such a colon no bracket is open, so each part starts as the
candidate itself does, and a reader that goes through the parts one by one finds the same colons as
one that counts the brackets from the start (`Candidate.cut_iff`). There is one way to cut a text,
and a candidate is read by it: nothing of the text is lost, and nothing is added
(`Candidate.parts_of_candidate`).

Brackets are counted and not paired up, so the count may fall below zero; a colon there is no cut
either.
-/
namespace LivePreview

theorem Text.after?_eq_none {p s : String} : after? p s = none ↔ ∀ rest, s ≠ p ++ rest := by
  simp [Option.eq_none_iff_forall_ne_some, after?_eq_some]

theorem Text.before?_eq_none {p s : String} : before? p s = none ↔ ∀ rest, s ≠ rest ++ p := by
  simp [Option.eq_none_iff_forall_ne_some, before?_eq_some]

namespace Style.Candidate

/-! ## Open brackets -/

/-- How many brackets are open behind a text, square and round ones counted together; it is below
zero if more are closed than opened. -/
def openBehind (s : String) : Int :=
  (s.toList.countP fun c => c = '[' ∨ c = '(' : Nat) -
    (s.toList.countP fun c => c = ']' ∨ c = ')' : Nat)

theorem balance_eq (s : String) : balance s.toList = openBehind s := by
  rw [openBehind]
  generalize s.toList = cs
  induction cs with
  | nil => rfl
  | cons c cs ih =>
    have hcons : balance (c :: cs) = nesting c + balance cs := rfl
    rw [hcons, ih, List.countP_cons, List.countP_cons, nesting]
    by_cases hopen : c = '[' ∨ c = '('
    · have hclose : ¬ (c = ']' ∨ c = ')') := by rcases hopen with rfl | rfl <;> decide
      simp [hopen, hclose]
      omega
    · by_cases hclose : c = ']' ∨ c = ')'
      · simp [hopen, hclose]
        omega
      · simp [hopen, hclose]

@[simp] theorem openBehind_append (a b : String) :
    openBehind (a ++ b) = openBehind a + openBehind b := by
  simp only [openBehind, String.toList_append, List.countP_append]
  omega

@[simp] theorem openBehind_empty : openBehind "" = 0 := rfl

@[simp] theorem openBehind_colon : openBehind ":" = 0 := rfl

/-! ## Cutting at colons -/

/-- Some names with a colon behind each. -/
def stackText (names : List String) : String := String.join (names.map (· ++ ":"))

/-- A text is cut into names and a last part: they are the text when a colon is put behind each
name, no bracket is open where a name ends, and one is open, or too many are closed, at each colon
within a part. -/
structure Cut (s : String) (names : List String) (last : String) : Prop where
  joined : stackText names ++ last = s
  outside : ∀ front name back, names = front ++ name :: back →
    openBehind (stackText front ++ name) = 0
  within : ∀ front part back x y, names ++ [last] = front ++ part :: back →
    part = x ++ ":" ++ y → openBehind (stackText front ++ x) ≠ 0

/-- Whether no colon stands outside of the brackets of a part. -/
def Solid (part : String) : Prop := ∀ x y, part = x ++ ":" ++ y → openBehind x ≠ 0

variable {s last : String} {names front : List String}

@[simp] theorem stackText_nil : stackText [] = "" := rfl

@[simp] theorem stackText_cons (name : String) (names : List String) :
    stackText (name :: names) = name ++ ":" ++ stackText names := by
  simp [stackText]

theorem stackText_append (a b : List String) :
    stackText (a ++ b) = stackText a ++ stackText b := by
  simp [stackText]

theorem openBehind_stackText (h : ∀ name ∈ names, openBehind name = 0) :
    openBehind (stackText names) = 0 := by
  induction names with
  | nil => rfl
  | cons name names ih =>
    simp [h name List.mem_cons_self, ih fun n hn => h n (List.mem_cons_of_mem name hn)]

/-- What is in front of a part are names. -/
theorem prefix_of_parts {part : String} {back : List String}
    (h : names ++ [last] = front ++ part :: back) : front <+: names := by
  refine List.prefix_of_prefix_length_le ⟨part :: back, h.symm⟩
    (List.prefix_append names [last]) ?_
  have hlength := congrArg List.length h
  simp at hlength
  omega

/-- No bracket is open where a part starts. -/
theorem Cut.openBehind_front {part : String} {back : List String} (h : Cut s names last)
    (hparts : names ++ [last] = front ++ part :: back) : openBehind (stackText front) = 0 := by
  rcases List.eq_nil_or_concat front with rfl | ⟨before, name, rfl⟩
  · rfl
  · -- the colon in front of the part is the one behind the name before it
    obtain ⟨rest, hnames⟩ := prefix_of_parts hparts
    have hname := h.outside before name rest (by simp [← hnames])
    simpa [stackText_append] using hname

/-- **The parts may be looked at one by one.** -/
theorem cut_iff : Cut s names last ↔ stackText names ++ last = s ∧
    (∀ name ∈ names, openBehind name = 0) ∧ ∀ part ∈ names ++ [last], Solid part := by
  constructor
  · intro h
    refine ⟨h.joined, fun name hname => ?_, fun part hpart x y hxy => ?_⟩
    · obtain ⟨front, back, rfl⟩ := List.append_of_mem hname
      have hparts : front ++ name :: back ++ [last] = front ++ name :: (back ++ [last]) := by simp
      have hstart : openBehind (stackText front) = 0 := h.openBehind_front hparts
      simpa [hstart] using h.outside front name back rfl
    · obtain ⟨front, back, hparts⟩ := List.append_of_mem hpart
      have hcolon := h.within front part back x y hparts hxy
      rw [openBehind_append, h.openBehind_front hparts] at hcolon
      simpa using hcolon
  · rintro ⟨hjoined, hbalanced, hsolid⟩
    have hstart : ∀ front, front <+: names → openBehind (stackText front) = 0 :=
      fun front hfront => openBehind_stackText fun n hn => hbalanced n (hfront.subset hn)
    refine ⟨hjoined, fun front name back hnames => ?_, fun front part back x y hparts hxy => ?_⟩
    · have hfront : front <+: names := ⟨name :: back, hnames.symm⟩
      simp [hstart front hfront, hbalanced name (by simp [hnames])]
    · rw [openBehind_append, hstart front (prefix_of_parts hparts), Int.zero_add]
      exact hsolid part (by simp [hparts]) x y hxy

theorem exists_colon_of_not_solid (h : ¬ Solid s) :
    ∃ x y, s = x ++ ":" ++ y ∧ openBehind x = 0 := by
  simpa only [Solid, Classical.not_forall, Classical.not_not, exists_prop] using h

theorem length_lt_of_colon {x y : String} (h : s = x ++ ":" ++ y) :
    x.length < s.length ∧ y.length < s.length := by
  have hcolon : ":".length = 1 := rfl
  rw [h, String.length_append, String.length_append]
  omega

/-- The first colon outside of brackets. -/
theorem exists_first_colon (s : String) (h : ¬ Solid s) :
    ∃ name rest, s = name ++ ":" ++ rest ∧ Solid name ∧ openBehind name = 0 := by
  obtain ⟨x, y, hs, hx⟩ := exists_colon_of_not_solid h
  by_cases hsolid : Solid x
  · exact ⟨x, y, hs, hsolid, hx⟩
  · obtain ⟨name, rest, hname, hfirst⟩ := exists_first_colon x hsolid
    exact ⟨name, rest ++ ":" ++ y, by rw [hs, hname]; simp only [String.append_assoc], hfirst⟩
termination_by s.length
decreasing_by exact (length_lt_of_colon hs).1

/-- **Every text can be cut.** -/
theorem exists_cut (s : String) : ∃ names last, Cut s names last := by
  by_cases hsolid : Solid s
  · exact ⟨[], s, cut_iff.mpr ⟨by simp, by simp, by simpa using hsolid⟩⟩
  · obtain ⟨name, rest, hs, hname, hopen⟩ := exists_first_colon s hsolid
    obtain ⟨names, last, hcut⟩ := exists_cut rest
    obtain ⟨hjoined, hbalanced, hparts⟩ := cut_iff.mp hcut
    refine ⟨name :: names, last, cut_iff.mpr ⟨?_, ?_, ?_⟩⟩
    · rw [hs, ← hjoined, stackText_cons]
      simp only [String.append_assoc]
    · simpa [hopen] using hbalanced
    · simpa [hname] using hparts
termination_by s.length
decreasing_by exact (length_lt_of_colon hs).2

/-! ## The segments of a reader -/

theorem segments_ne_nil (depth : Int) (s : List Char) : segments depth s ≠ [] := by
  cases s with
  | nil => simp [segments]
  | cons c r =>
    rw [segments]
    split
    · simp
    · split <;> simp

theorem segments_cons {depth : Int} {c : Char} (hc : ¬ (c = ':' ∧ depth = 0)) (r : List Char) :
    segments depth (c :: r) = (segments (depth + nesting c) r).modifyHead (c :: ·) := by
  rw [segments, if_neg hc]
  cases hr : segments (depth + nesting c) r with
  | nil => exact absurd hr (segments_ne_nil _ r)
  | cons first rest => rfl

/-- A part without a colon outside of brackets belongs to the first segment. -/
theorem segments_append {depth : Int} {part : List Char}
    (h : ∀ x y, part = x ++ ':' :: y → depth + balance x ≠ 0) (rest : List Char) :
    segments depth (part ++ rest) =
      (segments (depth + balance part) rest).modifyHead (part ++ ·) := by
  induction part generalizing depth with
  | nil => cases hr : segments depth rest <;> simp [balance, hr]
  | cons c part ih =>
    have hc : ¬ (c = ':' ∧ depth = 0) := by
      rintro ⟨rfl, rfl⟩
      exact h [] part rfl rfl
    have hpart : ∀ x y, part = x ++ ':' :: y → depth + nesting c + balance x ≠ 0 := by
      intro x y hxy
      have hcolon := h (c :: x) y (by rw [hxy, List.cons_append])
      rwa [show balance (c :: x) = nesting c + balance x from rfl, ← Int.add_assoc] at hcolon
    rw [List.cons_append, segments_cons hc, ih hpart, List.modifyHead_modifyHead,
      show balance (c :: part) = nesting c + balance part from rfl, ← Int.add_assoc]
    rfl

theorem Solid.segments_append {part : String} (h : Solid part) (rest : List Char) :
    segments 0 (part.toList ++ rest) =
      (segments (openBehind part) rest).modifyHead (part.toList ++ ·) := by
  rw [Candidate.segments_append, balance_eq, Int.zero_add]
  intro x y hxy
  rw [Int.zero_add, ← String.toList_ofList (l := x), balance_eq]
  exact h (String.ofList x) (String.ofList y) (String.toList_inj.mp (by simp [hxy]))

/-- A reader finds the parts of a text. -/
theorem Cut.segments_eq (h : Cut s names last) :
    (segments 0 s.toList).map String.ofList = names ++ [last] := by
  obtain ⟨rfl, hbalanced, hsolid⟩ := cut_iff.mp h
  clear h
  induction names with
  | nil =>
    have hlast : Solid last := hsolid last (by simp)
    have hread := hlast.segments_append []
    rw [List.append_nil] at hread
    simp [hread, segments]
  | cons name names ih =>
    have hname : Solid name := hsolid name (by simp)
    -- the reader stops at the colon behind the name, where it has closed all brackets
    have htext : (stackText (name :: names) ++ last).toList =
        name.toList ++ ':' :: (stackText names ++ last).toList := by simp
    rw [htext, hname.segments_append, hbalanced name List.mem_cons_self, segments,
      if_pos ⟨rfl, rfl⟩, List.modifyHead_cons, List.append_nil, List.map_cons, String.ofList_toList,
      ih (fun n hn => hbalanced n (List.mem_cons_of_mem name hn))
        (fun part hpart => hsolid part (List.mem_cons_of_mem name hpart))]
    rfl

/-- **There is one way to cut a text**, and a reader finds it. -/
theorem cut_iff_segments :
    Cut s names last ↔ (segments 0 s.toList).map String.ofList = names ++ [last] := by
  refine ⟨Cut.segments_eq, fun h => ?_⟩
  obtain ⟨names', last', hcut⟩ := exists_cut s
  obtain ⟨rfl, hlast⟩ := List.append_inj' (hcut.segments_eq.symm.trans h) rfl
  obtain rfl := List.singleton_inj.mp hlast
  exact hcut

/-! ## The mark of an important class -/

/-- The last part of a candidate with its class, and whether it is marked as important: by a `!` in
front or, if there is none, by one at the end. -/
inductive Marked : String → String → Bool → Prop where
  | front (base : String) : Marked ("!" ++ base) base true
  | behind {base : String} (hfront : ∀ rest, base ++ "!" ≠ "!" ++ rest) :
      Marked (base ++ "!") base true
  | plain {base : String} (hfront : ∀ rest, base ≠ "!" ++ rest)
      (hback : ∀ rest, base ≠ rest ++ "!") : Marked base base false

theorem unmark_eq {base : String} {important : Bool} :
    unmark last = (base, important) ↔ Marked last base important := by
  constructor
  · intro h
    rw [unmark] at h
    split at h
    · rename_i rest hfront
      obtain ⟨rfl, rfl⟩ := Prod.mk.inj h
      exact Text.after?_eq_some.mp hfront ▸ .front rest
    rename_i hfront
    split at h
    · rename_i rest hback
      obtain ⟨rfl, rfl⟩ := Prod.mk.inj h
      obtain rfl := Text.before?_eq_some.mp hback
      exact .behind (Text.after?_eq_none.mp hfront)
    · rename_i hback
      obtain ⟨rfl, rfl⟩ := Prod.mk.inj h
      exact .plain (Text.after?_eq_none.mp hfront) (Text.before?_eq_none.mp hback)
  · rintro (_ | hfront | ⟨hfront, hback⟩)
    · simp [unmark, Text.after?_eq_some.mpr rfl]
    · simp [unmark, Text.after?_eq_none.mpr hfront, Text.before?_eq_some.mpr rfl]
    · simp [unmark, Text.after?_eq_none.mpr hfront, Text.before?_eq_none.mpr hback]

/-- An important class has its mark on one side, and another class has none. -/
theorem Marked.written {base : String} {important : Bool} (h : Marked last base important) :
    ∃ opening closing, last = opening ++ base ++ closing ∧
      if important then opening = "!" ∧ closing = "" ∨ opening = "" ∧ closing = "!"
      else opening = "" ∧ closing = "" := by
  cases h with
  | front => exact ⟨"!", "", by simp, .inl ⟨rfl, rfl⟩⟩
  | behind _ => exact ⟨"", "!", by simp, .inr ⟨rfl, rfl⟩⟩
  | plain _ _ => exact ⟨"", "", by simp, rfl, rfl⟩

/-! ## Candidates -/

variable {base : String} {important : Bool}

theorem parse?_of_cut (hcut : Cut s names last) (hmarked : Marked last base important) :
    parse? s =
      if openBehind s = 0 ∧ "" ∉ names ∧ base ≠ "" then some ⟨names, base, important⟩
      else none := by
  have hread : unmark last = (base, important) := unmark_eq.mpr hmarked
  rw [parse?]
  simp only [cut_iff_segments.mp hcut, List.dropLast_concat, List.getLast?_concat,
    Option.getD_some, hread, balance_eq]
  by_cases hopen : openBehind s = 0 <;> by_cases hnames : "" ∈ names <;>
    by_cases hbase : base = "" <;> simp [hopen, hnames, hbase]

/-- What is read off a text is what it is cut into. -/
theorem exists_cut_of_parse? {p : Candidate} (h : parse? s = some p) :
    ∃ last, Cut s p.variants last ∧ Marked last p.base p.important := by
  obtain ⟨names, last, hcut⟩ := exists_cut s
  have hmarked : Marked last (unmark last).1 (unmark last).2 := unmark_eq.mp rfl
  rw [parse?_of_cut hcut hmarked] at h
  split at h
  · obtain rfl := Option.some.inj h
    exact ⟨last, hcut, hmarked⟩
  · cases h

/-- **Nothing of a candidate is lost when it is read.** Every text is cut into names and a last part
at the colons outside of brackets. It is a candidate if and only if its brackets are balanced, no
name is empty and the class of the last part is not empty. The names with a colon behind each and
the class with its mark, which it has if and only if it is important, are the text again; neither a
name nor the class holds a colon that stands outside of the brackets of the whole text. -/
theorem parts_of_candidate (s : String) :
    (∃ names last base important, Cut s names last ∧ Marked last base important) ∧
    (∀ names last base important, Cut s names last → Marked last base important →
      parse? s =
        if openBehind s = 0 ∧ "" ∉ names ∧ base ≠ "" then some ⟨names, base, important⟩
        else none) ∧
    ∀ p, parse? s = some p → ∃ opening closing,
      s = stackText p.variants ++ (opening ++ p.base ++ closing) ∧
      (if p.important then opening = "!" ∧ closing = "" ∨ opening = "" ∧ closing = "!"
        else opening = "" ∧ closing = "") ∧
      (∀ front name back x y, p.variants = front ++ name :: back → name = x ++ ":" ++ y →
        openBehind (stackText front ++ x) ≠ 0) ∧
      ∀ x y, p.base = x ++ ":" ++ y → openBehind (stackText p.variants ++ (opening ++ x)) ≠ 0 := by
  refine ⟨?_, fun names last base important => parse?_of_cut, fun p hp => ?_⟩
  · obtain ⟨names, last, hcut⟩ := exists_cut s
    exact ⟨names, last, _, _, hcut, unmark_eq.mp rfl⟩
  · obtain ⟨last, hcut, hmarked⟩ := exists_cut_of_parse? hp
    obtain ⟨opening, closing, hlast, hmarks⟩ := hmarked.written
    refine ⟨opening, closing, by rw [← hlast, hcut.joined], hmarks, ?_, ?_⟩
    · intro front name back x y hvariants hxy
      exact hcut.within front name (back ++ [last]) x y (by simp [hvariants]) hxy
    · intro x y hxy
      refine hcut.within p.variants last [] (opening ++ x) (y ++ closing) rfl ?_
      rw [hlast, hxy]
      simp only [String.append_assoc]

/-- A name that closes a bracket before it opens one, and a class between two marks. -/
theorem parts_of_candidate_below_zero :
    Cut "md:]:[:!p!" ["md", "]:["] "!p!" ∧ Marked "!p!" "p!" true ∧
      parse? "md:]:[:!p!" = some ⟨["md", "]:["], "p!", true⟩ := by
  have hcut : Cut "md:]:[:!p!" ["md", "]:["] "!p!" := cut_iff_segments.mpr (by decide)
  have hmarked : Marked "!p!" "p!" true := unmark_eq.mp (by decide)
  refine ⟨hcut, hmarked, ?_⟩
  obtain ⟨-, hparse, -⟩ := parts_of_candidate "md:]:[:!p!"
  rw [hparse _ _ _ _ hcut hmarked]
  decide

end Style.Candidate
end LivePreview
