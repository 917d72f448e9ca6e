/-!
# Searching and cutting texts

A piece of text is looked for from the left, and replaced wherever it occurs, without overlaps.
Lists of characters carry the definitions; the functions on strings are these lists read as text.
-/

namespace LivePreview.Text

/-- What is left of `s` after the piece `p` in front, if `s` starts with it. -/
def afterChars? : List Char → List Char → Option (List Char)
  | [], s => some s
  | _ :: _, [] => none
  | p :: ps, c :: r => if p = c then afterChars? ps r else none

/-- The text before the first occurrence of `sep`, and the text after it. -/
def cutChars? (sep : List Char) : List Char → Option (List Char × List Char)
  | [] => if sep = [] then some ([], []) else none
  | c :: r =>
    match afterChars? sep (c :: r) with
    | some rest => some ([], rest)
    | none => (cutChars? sep r).map fun p => (c :: p.1, p.2)

/-- Replaces `old` by `new` from the left; the first `skip` characters are what is left of the
occurrence replaced last. -/
def replaceFrom (old new : List Char) : Nat → List Char → List Char
  | _, [] => []
  | skip + 1, _ :: r => replaceFrom old new skip r
  | 0, c :: r =>
    if old.isPrefixOf (c :: r) then new ++ replaceFrom old new (old.length - 1) r
    else c :: replaceFrom old new 0 r

/-- Replaces every occurrence of the nonempty piece `old`, from the left and without overlaps. -/
def replaceChars (old new s : List Char) : List Char :=
  replaceFrom old new 0 s

/-- Replaces what matches by `new`, from the left; `match?` says how many characters match in front
of a text, if it matches at all, and the first `skip` characters belong to the match before. -/
def replaceMatchesFrom (match? : List Char → Option Nat) (new : List Char) :
    Nat → List Char → List Char
  | _, [] => []
  | skip + 1, _ :: r => replaceMatchesFrom match? new skip r
  | 0, c :: r =>
    match match? (c :: r) with
    | some n => new ++ replaceMatchesFrom match? new (n - 1) r
    | none => c :: replaceMatchesFrom match? new 0 r

/-- Replaces what matches, from the left and without overlaps; no match is empty. -/
def replaceMatches (match? : List Char → Option Nat) (new s : List Char) : List Char :=
  replaceMatchesFrom match? new 0 s

/-- Whether a text has an end that satisfies `p`. -/
def anySuffix (p : List Char → Bool) : List Char → Bool
  | [] => p []
  | c :: r => p (c :: r) || anySuffix p r

/-- What is left of `s` after the piece `p` in front. -/
def after? (p s : String) : Option String :=
  (afterChars? p.toList s.toList).map String.ofList

/-- What is left of `s` before the piece `p` at its end. -/
def before? (p s : String) : Option String :=
  (afterChars? p.toList.reverse s.toList.reverse).map fun r => String.ofList r.reverse

/-- Whether `s` starts with `p`. -/
def startsWith (p s : String) : Bool := (after? p s).isSome

/-- Whether `s` ends with `p`. -/
def endsWith (p s : String) : Bool := (before? p s).isSome

/-- The texts before and after the first occurrence of `sep`. -/
def cut? (sep s : String) : Option (String × String) :=
  (cutChars? sep.toList s.toList).map fun p => (String.ofList p.1, String.ofList p.2)

/-- The texts before and after the last occurrence of the character `sep`. -/
def cutLast? (sep : Char) (s : String) : Option (String × String) :=
  (cutChars? [sep] s.toList.reverse).map fun p =>
    (String.ofList p.2.reverse, String.ofList p.1.reverse)

/-- Whether `p` occurs in `s`. -/
def occurs (p s : String) : Bool := (cut? p s).isSome

/-- Replaces every occurrence of the nonempty piece `old`. -/
def replace (old new s : String) : String :=
  String.ofList (replaceChars old.toList new.toList s.toList)

/-- Whether every character of a text satisfies `p`. -/
def all (p : Char → Bool) (s : String) : Bool := s.toList.all p

/-- The texts, with `sep` between each two of them. -/
def joinWith (sep : String) : List String → String
  | [] => ""
  | [s] => s
  | s :: r => s ++ sep ++ joinWith sep r

/-- Keeps the first of equal members. -/
def firsts {α : Type} [BEq α] : List α → List α
  | [] => []
  | a :: r => a :: (firsts r).filter (fun b => !(b == a))

theorem afterChars?_eq_some {p s r : List Char} : afterChars? p s = some r ↔ s = p ++ r := by
  induction p generalizing s with
  | nil => simp [afterChars?, eq_comm]
  | cons a p ih =>
    cases s with
    | nil => simp [afterChars?]
    | cons c s =>
      by_cases h : a = c
      · simp [afterChars?, h, ih]
      · simp [afterChars?, h, Ne.symm h]

/-- Both sides of a cut and the separator make up the text. -/
theorem eq_append_of_cutChars? {sep s a b : List Char} (h : cutChars? sep s = some (a, b)) :
    s = a ++ sep ++ b := by
  induction s generalizing a b with
  | nil =>
    simp only [cutChars?] at h
    split at h <;> simp_all
  | cons c r ih =>
    simp only [cutChars?] at h
    split at h
    · rename_i rest hr
      obtain ⟨rfl, rfl⟩ : [] = a ∧ rest = b := by simpa using h
      simpa using afterChars?_eq_some.1 hr
    · obtain ⟨⟨x, y⟩, hxy, he⟩ := Option.map_eq_some_iff.1 h
      obtain ⟨rfl, rfl⟩ : c :: x = a ∧ y = b := by simpa using he
      simp [ih hxy]

theorem after?_eq_some {p s r : String} : after? p s = some r ↔ s = p ++ r := by
  rw [after?, Option.map_eq_some_iff, ← String.toList_inj, String.toList_append]
  constructor
  · rintro ⟨rest, h, rfl⟩
    rw [afterChars?_eq_some.1 h, String.toList_ofList]
  · intro h
    exact ⟨r.toList, afterChars?_eq_some.2 h, String.ofList_toList⟩

theorem before?_eq_some {p s r : String} : before? p s = some r ↔ s = r ++ p := by
  rw [before?, Option.map_eq_some_iff, ← String.toList_inj, String.toList_append]
  constructor
  · rintro ⟨rest, h, rfl⟩
    rw [String.toList_ofList, ← List.reverse_inj, afterChars?_eq_some.1 h]
    simp
  · intro h
    exact ⟨r.toList.reverse, afterChars?_eq_some.2 (by simp [h]), by simp⟩

theorem startsWith_eq_true {p s : String} :
    startsWith p s = true ↔ p.toList <+: s.toList := by
  rw [startsWith, Option.isSome_iff_exists]
  constructor
  · rintro ⟨r, h⟩
    rw [after?_eq_some.1 h, String.toList_append]
    exact List.prefix_append _ _
  · rintro ⟨r, h⟩
    refine ⟨String.ofList r, after?_eq_some.2 (String.toList_inj.1 ?_)⟩
    rw [String.toList_append, String.toList_ofList, h]

theorem endsWith_eq_true {p s : String} : endsWith p s = true ↔ ∃ r, s = r ++ p := by
  simp [endsWith, Option.isSome_iff_exists, before?_eq_some]

theorem eq_append_of_cut? {sep s a b : String} (h : cut? sep s = some (a, b)) :
    s = a ++ sep ++ b := by
  obtain ⟨⟨front, rest⟩, hcut, heq⟩ := Option.map_eq_some_iff.1 h
  obtain ⟨rfl, rfl⟩ : String.ofList front = a ∧ String.ofList rest = b := by simpa using heq
  rw [← String.toList_inj, eq_append_of_cutChars? hcut]
  simp

theorem eq_append_of_cutLast? {sep : Char} {s a b : String} (h : cutLast? sep s = some (a, b)) :
    s = a ++ sep.toString ++ b := by
  obtain ⟨⟨front, rest⟩, hcut, heq⟩ := Option.map_eq_some_iff.1 h
  obtain ⟨rfl, rfl⟩ : String.ofList rest.reverse = a ∧ String.ofList front.reverse = b := by
    simpa using heq
  rw [← String.toList_inj, ← List.reverse_inj, eq_append_of_cutChars? hcut]
  simp

theorem cutChars?_isSome {sep s : List Char} : (cutChars? sep s).isSome = true ↔ sep <:+: s := by
  induction s with
  | nil => by_cases h : sep = [] <;> simp [cutChars?, h]
  | cons c r ih =>
    rw [List.infix_cons_iff, ← ih, cutChars?]
    cases hr : afterChars? sep (c :: r) with
    | some rest => simp [afterChars?_eq_some.1 hr]
    | none =>
      have hfront : ¬ sep <+: c :: r := fun ⟨rest, h⟩ => by
        simp [afterChars?_eq_some.2 h.symm] at hr
      simp [hfront]

theorem occurs_eq_true {p s : String} : occurs p s = true ↔ p.toList <:+: s.toList := by
  rw [← cutChars?_isSome, occurs, cut?, Option.isSome_map]

/-- A single character is replaced wherever it stands. -/
theorem replaceChars_singleton (c : Char) (new s : List Char) :
    replaceChars [c] new s = s.flatMap fun d => if d = c then new else [d] := by
  rw [replaceChars]
  induction s with
  | nil => rfl
  | cons d r ih =>
    by_cases h : d = c
    · simp [replaceFrom, h, ih]
    · simp [replaceFrom, h, ih, Ne.symm h, List.isPrefixOf]

section
variable {old new p s : List Char}

/-- What has no character of `old` is copied. -/
theorem prefix_replaceFrom (hold : old ≠ []) (hp : ∀ c ∈ p, c ∉ old) (h : p <+: s) :
    p <+: replaceFrom old new 0 s := by
  induction p generalizing s with
  | nil => exact List.nil_prefix
  | cons c p ih =>
    obtain ⟨r, rfl⟩ := h
    have hc : old.isPrefixOf (c :: (p ++ r)) = false := by
      cases old with
      | nil => exact absurd rfl hold
      | cons o old =>
        have hne : o ≠ c := fun h => hp c List.mem_cons_self (h ▸ List.mem_cons_self)
        simp [List.isPrefixOf, hne]
    rw [List.cons_append, replaceFrom, hc]
    exact List.cons_prefix_cons.2
      ⟨rfl, ih (fun c hc => hp c (List.mem_cons_of_mem _ hc)) (List.prefix_append p r)⟩

/-- A piece that has no character of `old` is still there when `old` has been replaced. -/
theorem infix_replaceFrom (hold : old ≠ []) (hp : ∀ c ∈ p, c ∉ old) {skip : Nat}
    (hskip : ∀ c ∈ s.take skip, c ∈ old) (h : p <:+: s) : p <:+: replaceFrom old new skip s := by
  cases p with
  | nil => exact List.nil_infix
  | cons d p =>
    have hd : d ∉ old := hp d List.mem_cons_self
    induction s generalizing skip with
    | nil => simp at h
    | cons c r ih =>
      rcases List.infix_cons_iff.1 h with hfront | hinfix
      · -- The piece starts here, so its first character is not part of an occurrence of `old`.
        obtain ⟨rfl, -⟩ := List.cons_prefix_cons.1 hfront
        cases skip with
        | zero => exact (prefix_replaceFrom hold hp hfront).isInfix
        | succ skip => exact absurd (hskip d List.mem_cons_self) hd
      · cases skip with
        | succ skip => exact ih (fun c hc => hskip c (List.mem_cons_of_mem _ hc)) hinfix
        | zero =>
          rw [replaceFrom]
          split
          · rename_i hhere
            have hrest : ∀ c ∈ r.take (old.length - 1), c ∈ old := by
              obtain ⟨rest, hrest⟩ := List.isPrefixOf_iff_prefix.1 hhere
              cases old with
              | nil => exact absurd rfl hold
              | cons o old =>
                obtain ⟨-, rfl⟩ := List.cons.inj hrest
                simp +contextual
            exact (ih hrest hinfix).trans (List.suffix_append _ _).isInfix
          · exact (ih (by simp) hinfix).trans (List.suffix_cons _ _).isInfix

theorem occurs_replace {old new p s : String} (hold : old ≠ "")
    (hp : ∀ c ∈ p.toList, c ∉ old.toList) (h : occurs p s = true) :
    occurs p (replace old new s) = true := by
  rw [occurs_eq_true] at h ⊢
  rw [replace, String.toList_ofList]
  exact infix_replaceFrom (by simpa using hold) hp (by simp) h

end

end LivePreview.Text
