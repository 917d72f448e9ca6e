import LivePreview.Registry.File
/-!
# Paths into registries

A source is made of pieces: paths to those parts of a registry that the preview has, and characters
that belong to no such path. No two paths overlap, and what replaces a path makes up no other one
with the text around. So redirecting imports is one pass, though it is made in two: each path is
replaced, wherever it stands, and each other character is kept (`redirectImports_written`).

The name of the registry in a path is all that stands in front of the next slash. It is meant to be
a segment of a specifier, but a specifier may end behind the prefix, and then the name runs on over
quotes and blanks up to a slash of some later text (`registry_paths_redirected`).
-/
namespace LivePreview

/-! ## Replacing matches -/

namespace Text

variable {match? : List Char → Option Nat} {new a s : List Char}

/-- The rest of a match is passed over. -/
theorem replaceMatchesFrom_append (match? : List Char → Option Nat) (new a s : List Char) :
    replaceMatchesFrom match? new a.length (a ++ s) = replaceMatches match? new s := by
  induction a with
  | nil => rfl
  | cons c a ih => exact ih

/-- A match in front of a text is replaced. -/
theorem replaceMatches_of_match (ha : a ≠ []) (h : match? (a ++ s) = some a.length) :
    replaceMatches match? new (a ++ s) = new ++ replaceMatches match? new s := by
  cases a with
  | nil => exact absurd rfl ha
  | cons c a =>
    rw [List.cons_append] at h ⊢
    rw [replaceMatches, replaceMatchesFrom, h]
    exact congrArg (new ++ ·) (replaceMatchesFrom_append match? new a s)

/-- What no match begins in is kept. -/
theorem replaceMatches_of_no_match
    (h : ∀ front b, a = front ++ b → b ≠ [] → match? (b ++ s) = none) :
    replaceMatches match? new (a ++ s) = a ++ replaceMatches match? new s := by
  induction a with
  | nil => rfl
  | cons c a ih =>
    have hhere : match? (c :: (a ++ s)) = none := h [] (c :: a) rfl (by simp)
    have hrest := ih fun front b hb => h (c :: front) b (by rw [hb, List.cons_append])
    rw [List.cons_append, replaceMatches, replaceMatchesFrom, hhere]
    exact congrArg (c :: ·) hrest

end Text

namespace Registry.File

/-! ## Paths and pieces -/

/-- What the preview has of a registry. -/
inductive Part where
  | components
  | utilities
deriving DecidableEq

/-- What a path has behind the name of the registry. -/
def Part.tail : Part → String
  | .components => "/ui/"
  | .utilities => "/lib/utils"

/-- Where the preview has the part. -/
def Part.place : Part → String
  | .components => "@/components/ui/"
  | .utilities => "@/lib/utils"

/-- The path to a part of the registry with a name. -/
def Part.path (part : Part) (name : List Char) : List Char :=
  '@' :: ("/registry/".toList ++ (name ++ part.tail.toList))

/-- A name is not empty and has no slash. -/
def IsName (name : List Char) : Prop := name ≠ [] ∧ '/' ∉ name

/-- A name that lies within one specifier. -/
def IsSegment (name : List Char) : Prop :=
  IsName name ∧ ∀ c ∈ name, c ∉ ['"', '\'', '\x60'] ∧ Text.isBlank c = false

/-- Whether a text starts with a path. -/
def StartsPath (s : List Char) : Prop :=
  ∃ (part : Part) (name rest : List Char), IsName name ∧ s = part.path name ++ rest

/-- Whether a text has a path whose name runs out of its specifier. -/
def Overruns (s : List Char) : Prop :=
  ∃ (part : Part) (before name rest : List Char),
    s = before ++ (part.path name ++ rest) ∧ IsName name ∧ ¬ IsSegment name

/-- A piece of a source. -/
inductive Piece where
  | kept (c : Char)
  | path (part : Part) (name : List Char)

namespace Piece

/-- A piece as it is written. -/
def text : Piece → List Char
  | kept c => [c]
  | path part name => part.path name

/-- A piece with its path replaced. -/
def redirected : Piece → List Char
  | kept c => [c]
  | path part _ => part.place.toList

/-- A piece with its path replaced if it is one to the components. -/
def halfway : Piece → List Char
  | path .components _ => Part.components.place.toList
  | p => p.text

end Piece

/-- The source that pieces make up. -/
def written (pieces : List Piece) : List Char := pieces.flatMap Piece.text

/-- Every path in the source is one of the pieces. -/
def Whole : List Piece → Prop
  | [] => True
  | .kept c :: pieces => ¬ StartsPath (c :: written pieces) ∧ Whole pieces
  | .path _ name :: pieces => IsName name ∧ Whole pieces

variable {part part' : Part} {name name' s a b x rest rest' z : List Char}
  {pieces : List Piece} {n : Nat}

theorem written_kept (c : Char) (pieces : List Piece) :
    written (.kept c :: pieces) = c :: written pieces := rfl

theorem written_path (part : Part) (name : List Char) (pieces : List Piece) :
    written (.path part name :: pieces) = part.path name ++ written pieces := rfl

/-! ## Paths do not overlap -/

theorem Part.exists_tail (part : Part) : ∃ t, part.tail.toList = '/' :: t := by
  cases part <;> exact ⟨_, rfl⟩

theorem Part.at_not_mem_tail (part : Part) : '@' ∉ part.tail.toList := by
  cases part <;> decide

theorem Part.path_ne_nil (part : Part) (name : List Char) : part.path name ≠ [] :=
  List.cons_ne_nil _ _

theorem append_slash_inj (hname : '/' ∉ name) (hname' : '/' ∉ name')
    (h : name ++ '/' :: rest = name' ++ '/' :: rest') : name = name' ∧ rest = rest' := by
  induction name generalizing name' with
  | nil =>
    cases name' with
    | nil => exact ⟨rfl, (List.cons.inj h).2⟩
    | cons c name' =>
      obtain ⟨rfl, -⟩ := List.cons.inj h
      exact absurd List.mem_cons_self hname'
  | cons d name ih =>
    cases name' with
    | nil =>
      obtain ⟨rfl, -⟩ := List.cons.inj h
      exact absurd List.mem_cons_self hname
    | cons c name' =>
      obtain ⟨rfl, hbehind⟩ := List.cons.inj h
      obtain ⟨rfl, rfl⟩ := ih (fun hd => hname (List.mem_cons_of_mem _ hd))
        (fun hd => hname' (List.mem_cons_of_mem _ hd)) hbehind
      exact ⟨rfl, rfl⟩

theorem Part.tail_append_inj (h : part.tail.toList ++ rest = part'.tail.toList ++ rest') :
    part = part' := by
  cases part <;> cases part'
  · rfl
  · exact absurd (List.cons.inj (List.cons.inj h).2).1 (by decide)
  · exact absurd (List.cons.inj (List.cons.inj h).2).1 (by decide)
  · rfl

/-- A text starts with one path at most. -/
theorem path_append_inj (hname : IsName name) (hname' : IsName name')
    (h : part.path name ++ rest = part'.path name' ++ rest') :
    part = part' ∧ name = name' ∧ rest = rest' := by
  obtain ⟨t, ht⟩ := part.exists_tail
  obtain ⟨t', ht'⟩ := part'.exists_tail
  have hbehind : name ++ (part.tail.toList ++ rest) = name' ++ (part'.tail.toList ++ rest') := by
    simp only [Part.path, List.cons_append, List.append_assoc] at h
    exact List.append_cancel_left (List.cons.inj h).2
  have hslash : name ++ '/' :: (t ++ rest) = name' ++ '/' :: (t' ++ rest') := by
    simpa only [ht, ht', List.cons_append] using hbehind
  obtain ⟨rfl, -⟩ := append_slash_inj hname.2 hname'.2 hslash
  have htails := List.append_cancel_left hbehind
  obtain rfl := Part.tail_append_inj htails
  exact ⟨rfl, rfl, List.append_cancel_left htails⟩

/-- Where a sign is not in the front, it is behind it. -/
theorem exists_of_append_cons {y : List Char} {c : Char} (hc : c ∉ x)
    (h : x ++ y = a ++ c :: b) : ∃ a', a = x ++ a' ∧ y = a' ++ c :: b := by
  rcases List.append_eq_append_iff.mp h with ⟨a', rfl, hy⟩ | ⟨x', rfl, hx⟩
  · exact ⟨a', rfl, hy⟩
  · cases x' with
    | nil => exact ⟨[], by simp, by simpa using hx.symm⟩
    | cons d x' =>
      obtain ⟨rfl, -⟩ := List.cons.inj hx
      simp at hc

/-- Where a sign is not in the rest, it is in front of it. -/
theorem exists_of_append_cons_left {y : List Char} {c : Char} (hc : c ∉ y)
    (h : x ++ y = a ++ c :: b) : ∃ b', x = a ++ c :: b' ∧ b = b' ++ y := by
  rcases List.append_eq_append_iff.mp h with ⟨a', -, hy⟩ | ⟨x', rfl, hx⟩
  · exact absurd (hy ▸ List.mem_append_right a' List.mem_cons_self) hc
  · cases x' with
    | nil =>
      obtain rfl : c :: b = y := hx
      exact absurd List.mem_cons_self hc
    | cons d x' =>
      obtain ⟨rfl, rfl⟩ := List.cons.inj hx
      exact ⟨x', rfl, rfl⟩

/-- The first sign of the prefix may stand in a name as well, but then no slash follows it in the
name, only the one of the tail may. -/
theorem tail_of_inside (hname : IsName name) (h : part.path name = a ++ b) (ha : a ≠ [])
    (hb : b ≠ []) (hat : b ++ rest = '@' :: '/' :: z) : part.tail.toList ++ rest = '/' :: z := by
  cases b with
  | nil => exact absurd rfl hb
  | cons d b =>
    obtain ⟨rfl, hslash⟩ : d = '@' ∧ b ++ rest = '/' :: z := List.cons.inj hat
    cases a with
    | nil => exact absurd rfl ha
    | cons e a =>
      have htext : "/registry/".toList ++ (name ++ part.tail.toList) = a ++ '@' :: b :=
        (List.cons.inj h).2
      -- neither the rest of the prefix nor the tail has the sign, so the name has it
      obtain ⟨a', rfl, hbehind⟩ := exists_of_append_cons (by decide) htext
      obtain ⟨y, rfl, rfl⟩ := exists_of_append_cons_left part.at_not_mem_tail hbehind
      cases y with
      | nil => exact hslash
      | cons c y =>
        obtain ⟨rfl, -⟩ : c = '/' ∧ y ++ part.tail.toList ++ rest = z := List.cons.inj hslash
        refine absurd ?_ hname.2
        exact List.mem_append_right a' (List.mem_cons_of_mem '@' List.mem_cons_self)

theorem StartsPath.exists_eq (h : StartsPath s) : ∃ z, s = '@' :: '/' :: 'r' :: z := by
  obtain ⟨part, name, rest, -, rfl⟩ := h
  exact ⟨_, rfl⟩

/-- No path begins within another one. -/
theorem not_startsPath_inside (hname : IsName name) (h : part.path name = a ++ b) (ha : a ≠ [])
    (hb : b ≠ []) (rest : List Char) : ¬ StartsPath (b ++ rest) := by
  intro hstarts
  obtain ⟨z, hat⟩ := hstarts.exists_eq
  have htail := tail_of_inside hname h ha hb hat
  cases part <;> simp [Part.tail] at htail

/-- Only in front of a place stands the sign with which a path begins. -/
theorem Part.place_of_at (part : Part) (h : part.place.toList = a ++ '@' :: b) : a = [] := by
  cases a with
  | nil => rfl
  | cons e a =>
    have hmem : '@' ∈ part.place.toList.tail := by simp [h]
    cases part <;> exact absurd hmem (by decide)

/-- No path begins within what replaces one. -/
theorem not_startsPath_place (h : part.place.toList = a ++ b) (hb : b ≠ []) (rest : List Char) :
    ¬ StartsPath (b ++ rest) := by
  intro hstarts
  obtain ⟨z, hat⟩ := hstarts.exists_eq
  cases b with
  | nil => exact hb rfl
  | cons d b =>
    obtain ⟨rfl, hslash⟩ : d = '@' ∧ b ++ rest = '/' :: 'r' :: z := List.cons.inj hat
    obtain rfl := part.place_of_at h
    cases part with
    | components =>
      obtain rfl : "/components/ui/".toList = b := (List.cons.inj h).2
      exact absurd (List.cons.inj (List.cons.inj hslash).2).1 (by decide)
    | utilities =>
      obtain rfl : "/lib/utils".toList = b := (List.cons.inj h).2
      exact absurd (List.cons.inj (List.cons.inj hslash).2).1 (by decide)

/-! ## Cutting a source into pieces -/

theorem exists_whole (s : List Char) : ∃ pieces, written pieces = s ∧ Whole pieces := by
  by_cases hstarts : StartsPath s
  · obtain ⟨part, name, rest, hname, hs⟩ := hstarts
    have hshorter : rest.length < s.length := by
      have hpos := List.length_pos_iff.mpr (part.path_ne_nil name)
      rw [hs, List.length_append]
      omega
    obtain ⟨pieces, hpieces, hwhole⟩ := exists_whole rest
    exact ⟨.path part name :: pieces, by rw [written_path, hpieces, hs], hname, hwhole⟩
  · cases s with
    | nil => exact ⟨[], rfl, trivial⟩
    | cons c s =>
      obtain ⟨pieces, rfl, hwhole⟩ := exists_whole s
      exact ⟨.kept c :: pieces, rfl, hstarts, hwhole⟩
termination_by s.length

theorem Whole.isName (h : Whole pieces) (hmem : .path part name ∈ pieces) : IsName name := by
  induction pieces with
  | nil => cases hmem
  | cons p pieces ih =>
    cases p with
    | kept c => exact ih h.2 (by simpa using hmem)
    | path part' name' =>
      rcases List.mem_cons.mp hmem with heq | hmem
      · obtain ⟨-, rfl⟩ := Piece.path.inj heq
        exact h.1
      · exact ih h.2 hmem

/-- Every path of a source is the piece in its place. -/
theorem Whole.exists_front (h : Whole pieces) (hname : IsName name)
    (hoccurs : written pieces = a ++ (part.path name ++ rest)) :
    ∃ front back, pieces = front ++ .path part name :: back ∧ written front = a := by
  induction pieces generalizing a with
  | nil => simp [written, Part.path] at hoccurs
  | cons p pieces ih =>
    cases p with
    | kept c =>
      rw [written_kept] at hoccurs
      cases a with
      | nil => exact absurd ⟨part, name, rest, hname, hoccurs⟩ h.1
      | cons d a =>
        obtain ⟨rfl, hrest⟩ := List.cons.inj hoccurs
        obtain ⟨front, back, rfl, rfl⟩ := ih h.2 hrest
        exact ⟨.kept c :: front, back, rfl, rfl⟩
    | path part' name' =>
      rw [written_path] at hoccurs
      rcases List.append_eq_append_iff.mp hoccurs with ⟨a', rfl, hrest⟩ | ⟨b, hpath, hrest⟩
      · obtain ⟨front, back, rfl, rfl⟩ := ih h.2 hrest
        exact ⟨.path part' name' :: front, back, rfl, rfl⟩
      · -- the path begins within the piece, so it is the piece or stands right behind it
        by_cases hb : b = []
        · subst hb
          have hbehind : written pieces = [] ++ (part.path name ++ rest) := hrest.symm
          obtain ⟨front, back, rfl, hfront⟩ := ih h.2 hbehind
          exact ⟨.path part' name' :: front, back, rfl, by
            rw [written_path, hfront, hpath, List.append_nil, List.append_nil]⟩
        · by_cases ha : a = []
          · subst ha
            have hsame : part.path name ++ rest = part'.path name' ++ written pieces := by
              rw [hrest, hpath, List.nil_append]
            obtain ⟨rfl, rfl, -⟩ := path_append_inj hname h.1 hsame
            exact ⟨[], pieces, rfl, rfl⟩
          · refine absurd ⟨part, name, rest, hname, hrest.symm⟩
              (not_startsPath_inside h.1 hpath ha hb (written pieces))

/-! ## Both passes -/

/-- The name is what stands in front of the next slash. -/
theorem takeWhile_name (hname : IsName name) (part : Part) (rest : List Char) :
    (name ++ (part.tail.toList ++ rest)).takeWhile (· ≠ '/') = name := by
  obtain ⟨t, ht⟩ := part.exists_tail
  have hne : ∀ c ∈ name, decide (c ≠ '/') = true := by
    intro c hc
    exact decide_eq_true fun hslash => hname.2 (hslash ▸ hc)
  rw [List.takeWhile_append_of_pos hne, ht, List.cons_append,
    List.takeWhile_cons_of_neg (by decide), List.append_nil]

theorem afterChars?_path (part : Part) (name rest : List Char) :
    Text.afterChars? "@/registry/".toList (part.path name ++ rest) =
      some (name ++ (part.tail.toList ++ rest)) :=
  Text.afterChars?_eq_some.mpr (by
    rw [Part.path, List.cons_append, List.append_assoc, List.append_assoc]
    rfl)

theorem registryPath?_eq_some : registryPath? part.tail s = some n ↔
    ∃ name rest, IsName name ∧ s = part.path name ++ rest ∧ n = (part.path name).length := by
  constructor
  · intro h
    obtain ⟨r, hprefix, h⟩ := Option.bind_eq_some_iff.mp h
    obtain ⟨rest, htail, h⟩ := Option.bind_eq_some_iff.mp h
    have hname : r.takeWhile (· ≠ '/') ++ r.drop (r.takeWhile (· ≠ '/')).length = r :=
      List.prefix_iff_eq_append.mp (List.takeWhile_prefix _)
    have hslash : '/' ∉ r.takeWhile (· ≠ '/') := by
      intro hmem
      have hne := List.all_eq_true.mp List.all_takeWhile _ hmem
      simp at hne
    generalize r.takeWhile (· ≠ '/') = name at *
    rw [Text.afterChars?_eq_some.mp htail] at hname
    split at h
    · cases h
    · rename_i hne
      obtain rfl : s.length - rest.length = n := Option.some.inj h
      have hs : s = part.path name ++ rest := by
        rw [Text.afterChars?_eq_some.mp hprefix, ← hname]
        simp [Part.path]
      exact ⟨name, rest, ⟨hne, hslash⟩, hs, by simp [hs]⟩
  · rintro ⟨name, rest, hname, rfl, rfl⟩
    have htail : Text.afterChars? part.tail.toList (part.tail.toList ++ rest) = some rest :=
      Text.afterChars?_eq_some.mpr rfl
    rw [registryPath?, afterChars?_path]
    simp only [Option.bind_eq_bind, Option.bind_some, takeWhile_name hname, List.drop_left, htail,
      if_neg hname.1]
    simp

theorem registryPath?_eq_none (h : ¬ StartsPath s) : registryPath? part.tail s = none := by
  rw [Option.eq_none_iff_forall_ne_some]
  intro n hn
  obtain ⟨name, rest, hname, hs, -⟩ := registryPath?_eq_some.mp hn
  exact h ⟨part, name, rest, hname, hs⟩

/-- A text without a path of either kind in it is passed over. -/
theorem replacePaths_append_of_none
    (h : ∀ front b, a = front ++ b → b ≠ [] → registryPath? part.tail (b ++ rest) = none) :
    replacePaths part.tail part.place (a ++ rest) = a ++ replacePaths part.tail part.place rest :=
  Text.replaceMatches_of_no_match h

theorem replacePaths_path (hname : IsName name) (rest : List Char) :
    replacePaths part.tail part.place (part.path name ++ rest) =
      part.place.toList ++ replacePaths part.tail part.place rest :=
  Text.replaceMatches_of_match (part.path_ne_nil name)
    (registryPath?_eq_some.mpr ⟨name, rest, hname, rfl, rfl⟩)

/-- Paths to the other part are kept. -/
theorem replacePaths_path_of_ne (hname : IsName name) (hpart : part' ≠ part) (rest : List Char) :
    replacePaths part'.tail part'.place (part.path name ++ rest) =
      part.path name ++ replacePaths part'.tail part'.place rest := by
  refine replacePaths_append_of_none fun front b hb hne => ?_
  by_cases hfront : front = []
  · subst hfront
    obtain rfl : part.path name = b := hb
    rw [Option.eq_none_iff_forall_ne_some]
    intro n hn
    obtain ⟨name', rest', hname', hs, -⟩ := registryPath?_eq_some.mp hn
    exact hpart (path_append_inj hname hname' hs).1.symm
  · exact registryPath?_eq_none (not_startsPath_inside hname hb hfront hne rest)

theorem replacePaths_place (part part' : Part) (rest : List Char) :
    replacePaths part'.tail part'.place (part.place.toList ++ rest) =
      part.place.toList ++ replacePaths part'.tail part'.place rest :=
  replacePaths_append_of_none fun _ _ hb hne =>
    registryPath?_eq_none (not_startsPath_place hb hne rest)

theorem replacePaths_kept {c : Char} (h : registryPath? part.tail (c :: rest) = none) :
    replacePaths part.tail part.place (c :: rest) =
      c :: replacePaths part.tail part.place rest := by
  rw [replacePaths, Text.replaceMatches, Text.replaceMatchesFrom, h]
  rfl

/-- The first pass. -/
theorem replacePaths_written (h : Whole pieces) :
    replacePaths Part.components.tail Part.components.place (written pieces) =
      pieces.flatMap Piece.halfway := by
  induction pieces with
  | nil => rfl
  | cons p pieces ih =>
    cases p with
    | kept c =>
      rw [written_kept, replacePaths_kept (registryPath?_eq_none h.1), ih h.2]
      rfl
    | path part name =>
      rw [written_path]
      cases part with
      | components =>
        rw [replacePaths_path h.1, ih h.2]
        rfl
      | utilities =>
        rw [replacePaths_path_of_ne h.1 (by decide), ih h.2]
        rfl

theorem Piece.halfway_cases (p : Piece) :
    p.halfway = Part.components.place.toList ∨ p.halfway = p.text := by
  cases p with
  | kept c => exact .inr rfl
  | path part name =>
    cases part with
    | components => exact .inl rfl
    | utilities => exact .inr rfl

/-- A text that does not run into what replaces a path was there before the first pass. -/
theorem exists_written_of_halfway
    (hx : ∀ front b, x = front ++ b → b ≠ [] →
      ∀ y z, b ++ y ≠ Part.components.place.toList ++ z)
    (h : pieces.flatMap Piece.halfway = x ++ rest) : ∃ rest', written pieces = x ++ rest' := by
  induction pieces generalizing x with
  | nil =>
    obtain rfl : x = [] := (List.append_eq_nil_iff.mp h.symm).1
    exact ⟨[], rfl⟩
  | cons p pieces ih =>
    by_cases hnil : x = []
    · exact ⟨written (p :: pieces), by rw [hnil]; rfl⟩
    · rw [List.flatMap_cons] at h
      rcases p.halfway_cases with hplace | htext
      · rw [hplace] at h
        exact absurd h.symm (hx [] x rfl hnil rest _)
      · rw [htext] at h
        rcases List.append_eq_append_iff.mp h with ⟨x', rfl, hrest⟩ | ⟨y, hy, -⟩
        · obtain ⟨rest', hwritten⟩ :=
            ih (fun front b hb => hx (p.text ++ front) b (by rw [hb, List.append_assoc])) hrest
          exact ⟨rest', by rw [List.append_assoc, ← hwritten]; rfl⟩
        · exact ⟨y ++ written pieces, by rw [← List.append_assoc, ← hy]; rfl⟩

/-- The first pass makes up no path for the second one. -/
theorem startsPath_of_halfway (hname : IsName name)
    (h : pieces.flatMap Piece.halfway = Part.utilities.path name ++ rest) :
    StartsPath (written pieces) := by
  have hx : ∀ front b, Part.utilities.path name = front ++ b → b ≠ [] →
      ∀ y z, b ++ y ≠ Part.components.place.toList ++ z := by
    intro front b hb hne y z hplace
    by_cases hfront : front = []
    · subst hfront
      obtain rfl : Part.utilities.path name = b := hb
      exact absurd (List.cons.inj (List.cons.inj (List.cons.inj hplace).2).2).1 (by decide)
    · have htail := tail_of_inside hname hb hfront hne hplace
      exact absurd (List.cons.inj (List.cons.inj htail).2).1 (by decide)
  obtain ⟨rest', hwritten⟩ := exists_written_of_halfway hx h
  exact ⟨.utilities, name, rest', hname, hwritten⟩

/-- The second pass. -/
theorem replacePaths_halfway (h : Whole pieces) :
    replacePaths Part.utilities.tail Part.utilities.place (pieces.flatMap Piece.halfway) =
      pieces.flatMap Piece.redirected := by
  induction pieces with
  | nil => rfl
  | cons p pieces ih =>
    rw [List.flatMap_cons, List.flatMap_cons, ← ih (by cases p <;> exact h.2)]
    cases p with
    | kept c =>
      refine replacePaths_kept ?_
      rw [Option.eq_none_iff_forall_ne_some]
      intro n hn
      obtain ⟨name, rest, hname, hs, -⟩ := registryPath?_eq_some.mp hn
      have hfirst : (Piece.kept c :: pieces).flatMap Piece.halfway =
          Part.utilities.path name ++ rest := hs
      exact h.1 (startsPath_of_halfway hname hfirst)
    | path part name =>
      cases part with
      | components => exact replacePaths_place .components .utilities _
      | utilities => exact replacePaths_path h.1 _

/-- Redirecting is one pass over the pieces. -/
theorem redirectImports_written {source : String} (h : Whole pieces)
    (hsource : written pieces = source.toList) :
    (redirectImports source).toList = pieces.flatMap Piece.redirected := by
  rw [redirectImports, ← hsource, String.toList_ofList]
  exact (congrArg (replacePaths Part.utilities.tail Part.utilities.place)
    (replacePaths_written h)).trans (replacePaths_halfway h)

/-! ## Names that run over -/

theorem occurs_of_mem (h : .path part name ∈ pieces) :
    ∃ before rest, written pieces = before ++ (part.path name ++ rest) := by
  obtain ⟨before, after, rfl⟩ := List.append_of_mem h
  exact ⟨written before, written after, by simp [written, Piece.text]⟩

/-- A name runs over if and only if one of a piece does. -/
theorem Whole.isSegment_iff (h : Whole pieces) :
    (∀ part name, .path part name ∈ pieces → IsSegment name) ↔ ¬ Overruns (written pieces) := by
  constructor
  · rintro hsegment ⟨part, before, name, rest, hwritten, hname, hover⟩
    obtain ⟨front, back, rfl, -⟩ := h.exists_front hname hwritten
    exact hover (hsegment part name (List.mem_append_right front List.mem_cons_self))
  · intro hover part name hmem
    refine Classical.byContradiction fun hsegment => ?_
    obtain ⟨before, rest, hwritten⟩ := occurs_of_mem hmem
    exact hover ⟨part, before, name, rest, hwritten, h.isName hmem, hsegment⟩

/-- **Redirecting replaces the paths of a source and keeps the rest.** Every source is cut into
pieces, of which each path in it is the one in its place, and the pieces are written again with the
paths replaced. The name in a path is not empty and has no slash. All names lie within one
specifier, so that nothing between two texts in quotes is dropped, unless the source has a path
whose name does not. -/
theorem registry_paths_redirected (source : String) :
    ∃ pieces : List Piece, written pieces = source.toList ∧
      (redirectImports source).toList = pieces.flatMap Piece.redirected ∧
      (∀ part name, .path part name ∈ pieces → IsName name) ∧
      (∀ part before name rest, source.toList = before ++ (Part.path part name ++ rest) →
        IsName name → ∃ front back, pieces = front ++ .path part name :: back ∧
          written front = before) ∧
      ((∀ part name, .path part name ∈ pieces → IsSegment name) ↔ ¬ Overruns source.toList) := by
  obtain ⟨pieces, hpieces, hwhole⟩ := exists_whole source.toList
  refine ⟨pieces, hpieces, redirectImports_written hwhole hpieces, fun _ _ => hwhole.isName, ?_, ?_⟩
  · intro part before name rest hsource hname
    exact hwhole.exists_front hname (hpieces.trans hsource)
  · rw [← hpieces]
    exact hwhole.isSegment_iff

/-- Whether a source is redirected by replacing paths whose names lie within one specifier. -/
def StaysWithin (source : String) : Prop :=
  ∃ pieces : List Piece, written pieces = source.toList ∧
    (redirectImports source).toList = pieces.flatMap Piece.redirected ∧
    ∀ part name, .path part name ∈ pieces → IsSegment name

/-- Behind a prefix in front of a text stands a quote before the next slash. -/
def closesFirst (s : List Char) : Bool :=
  match Text.afterChars? "@/registry/".toList s with
  | some rest => (rest.takeWhile (· ≠ '/')).contains '"'
  | none => true

theorem closesFirst_of_anySuffix (h : Text.anySuffix (!closesFirst ·) (a ++ b) = false) :
    closesFirst b = true := by
  induction a with
  | nil => cases b <;> simp_all [Text.anySuffix]
  | cons c a ih => exact ih (by simpa [Text.anySuffix] using (Bool.or_eq_false_iff.mp h).2)

/-- A source is not changed within its specifiers if each prefix is the end of one. -/
theorem redirectImports_eq_of_staysWithin {source : String} (h : StaysWithin source)
    (hcloses : Text.anySuffix (!closesFirst ·) source.toList = false) :
    redirectImports source = source := by
  obtain ⟨pieces, hsource, hredirected, hsegment⟩ := h
  have hkept : ∀ p ∈ pieces, p.redirected = p.text := by
    intro p hp
    cases p with
    | kept c => rfl
    | path part name =>
      have hname := hsegment part name hp
      obtain ⟨before, rest, hwritten⟩ := occurs_of_mem hp
      rw [← hsource, hwritten] at hcloses
      have hquote := closesFirst_of_anySuffix hcloses
      rw [closesFirst, afterChars?_path] at hquote
      dsimp only at hquote
      rw [takeWhile_name hname.1, List.contains_iff_mem] at hquote
      exact absurd List.mem_cons_self (hname.2 '"' hquote).1
  rw [← String.toList_inj, hredirected, ← hsource, written, List.flatMap_def, List.flatMap_def,
    List.map_congr_left hkept]

/-- A specifier that ends behind the prefix is joined to the next one, which no paths within one
specifier explain. -/
theorem registry_path_over_two_specifiers :
    redirectImports "import \"@/registry/init\";\nimport \"my/ui/card\";" =
        "import \"@/components/ui/card\";" ∧
      ¬ StaysWithin "import \"@/registry/init\";\nimport \"my/ui/card\";" := by
  have hredirected : redirectImports "import \"@/registry/init\";\nimport \"my/ui/card\";" =
      "import \"@/components/ui/card\";" := by decide
  refine ⟨hredirected, fun h => ?_⟩
  have hsame := redirectImports_eq_of_staysWithin h (by decide)
  rw [hredirected] at hsame
  exact absurd hsame (by decide)

end Registry.File
end LivePreview
