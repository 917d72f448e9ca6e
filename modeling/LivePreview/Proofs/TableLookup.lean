import LivePreview.Imports.Table
import LivePreview.Proofs.Members
import Mathlib.Data.List.Induction
/-!
# Looking up in a table

A table keeps the entry that came last for a key (`mem_ofList`), each key once and in order. In such
entries a specifier is looked up as a key first and then as something below the longest key that
covers it (`longestPrefix?_eq_some`).
-/
namespace LivePreview

/-! ## Ordered entries -/

/-- The URL that came last for a key. -/
def LastFor (entries : List (String × String)) (key url : String) : Prop :=
  ∃ before after, entries = before ++ (key, url) :: after ∧ ∀ e ∈ after, e.1 ≠ key

variable {entries : List (String × String)} {key key' url url' : String}

theorem not_lastFor_nil : ¬ LastFor [] key url := by
  rintro ⟨before, after, h, -⟩
  simp at h

/-- An entry that comes in addition counts for its key, and for no other one. -/
theorem lastFor_concat :
    LastFor (entries ++ [(key', url')]) key url ↔
      key' = key ∧ url' = url ∨ key' ≠ key ∧ LastFor entries key url := by
  constructor
  · rintro ⟨before, after, h, hafter⟩
    rcases List.eq_nil_or_concat after with rfl | ⟨after, e, rfl⟩
    · obtain ⟨-, heq⟩ := List.append_inj' h rfl
      exact .inl (by simpa using heq)
    · rw [List.concat_eq_append] at h hafter
      rw [← List.cons_append, ← List.append_assoc] at h
      obtain ⟨rfl, heq⟩ := List.append_inj' h rfl
      obtain rfl : (key', url') = e := by simpa using heq
      exact .inr ⟨hafter (key', url') (by simp), before, after, rfl,
        fun e he => hafter e (by simp [he])⟩
  · rintro (⟨rfl, rfl⟩ | ⟨hne, before, after, rfl, hafter⟩)
    · exact ⟨entries, [], rfl, fun e he => absurd he List.not_mem_nil⟩
    · refine ⟨before, after ++ [(key', url')], by simp, fun e he => ?_⟩
      rcases List.mem_append.mp he with he | he
      · exact hafter e he
      · rw [List.mem_singleton.mp he]
        exact hne

/-- A key that comes at all comes a last time. -/
theorem exists_lastFor {e : String × String} (h : e ∈ entries) :
    ∃ url, LastFor entries e.1 url := by
  induction entries using List.reverseRecOn with
  | nil => cases h
  | append_singleton r x ih =>
    by_cases hkey : x.1 = e.1
    · exact ⟨x.2, lastFor_concat.mpr (.inl ⟨hkey, rfl⟩)⟩
    · have hr : e ∈ r := by
        rcases List.mem_append.mp h with h | h
        · exact h
        · exact absurd (congrArg Prod.fst (List.mem_singleton.mp h)).symm hkey
      obtain ⟨url, hurl⟩ := ih hr
      exact ⟨url, lastFor_concat.mpr (.inr ⟨hkey, hurl⟩)⟩

theorem LastFor.mem (h : LastFor entries key url) : (key, url) ∈ entries := by
  obtain ⟨before, after, rfl, -⟩ := h
  simp

namespace ImportMap

/-- Entries with each key once, in order. -/
abbrev InOrder (entries : List (String × String)) : Prop := entries.Pairwise fun a b => a.1 < b.1

theorem mem_setEntry {e : String × String} (h : InOrder entries) :
    e ∈ setEntry key url entries ↔ e = (key, url) ∨ e ∈ entries ∧ e.1 ≠ key := by
  induction entries with
  | nil => simp [setEntry]
  | cons x r ih =>
    obtain ⟨k, u⟩ := x
    obtain ⟨hx, hr⟩ := List.pairwise_cons.mp h
    rw [setEntry]
    split
    · rename_i hlt
      have hne : ∀ e ∈ (k, u) :: r, e.1 ≠ key := by
        intro e he heq
        rcases List.mem_cons.mp he with rfl | he
        · exact String.lt_irrefl key (heq ▸ hlt)
        · exact String.lt_irrefl key (String.lt_trans hlt (heq ▸ hx e he))
      rw [List.mem_cons]
      exact or_congr_right ⟨fun he => ⟨he, hne e he⟩, fun he => he.1⟩
    · split
      · rename_i hkey
        have hne : ∀ e ∈ r, e.1 ≠ key := by
          intro e he heq
          have hlt : k < e.1 := hx e he
          exact String.lt_irrefl key (by rwa [hkey, heq] at hlt)
        grind
      · rename_i hkey
        have hrest := ih hr
        grind

theorem setEntry_inOrder (h : InOrder entries) : InOrder (setEntry key url entries) := by
  induction entries with
  | nil => exact List.pairwise_singleton _ _
  | cons x r ih =>
    obtain ⟨k, u⟩ := x
    obtain ⟨hx, hr⟩ := List.pairwise_cons.mp h
    rw [setEntry]
    split
    · rename_i hlt
      refine List.pairwise_cons.mpr ⟨fun e he => ?_, h⟩
      rcases List.mem_cons.mp he with rfl | he
      · exact hlt
      · exact String.lt_trans hlt (hx e he)
    · split
      · rename_i hkey
        exact List.pairwise_cons.mpr ⟨fun e he => hkey ▸ hx e he, hr⟩
      · rename_i hlt hne
        refine List.pairwise_cons.mpr ⟨fun e he => ?_, ih hr⟩
        rcases (mem_setEntry hr).mp he with rfl | ⟨he, -⟩
        · exact String.not_le.mp fun hle => hne (String.le_antisymm (String.not_lt.mp hlt) hle)
        · exact hx e he

theorem ofList_concat (es : List (String × String)) (e : String × String) :
    (ofList (es ++ [e])).entries = setEntry e.1 e.2 (ofList es).entries := by
  simp [ofList]

theorem ofList_inOrder (es : List (String × String)) : InOrder (ofList es).entries := by
  induction es using List.reverseRecOn with
  | nil => exact List.Pairwise.nil
  | append_singleton r e ih =>
    rw [ofList_concat]
    exact setEntry_inOrder ih

/-- A map has the entries that came last for their keys. -/
theorem mem_ofList {es : List (String × String)} :
    (key, url) ∈ (ofList es).entries ↔ LastFor es key url := by
  induction es using List.reverseRecOn with
  | nil => exact ⟨fun h => absurd h List.not_mem_nil, fun h => absurd h not_lastFor_nil⟩
  | append_singleton r e ih =>
    rw [ofList_concat, mem_setEntry (ofList_inOrder r), lastFor_concat, ih]
    grind

end ImportMap

namespace ImportTable

variable {t : ImportTable} {specifier : String}

/-! ## Keys -/

/-- A key finds its entry. -/
theorem entry?_eq_some (h : ImportMap.InOrder t.entries) :
    t.entry? key = some url ↔ (key, url) ∈ t.entries := by
  unfold entry?
  generalize t.entries = entries at h ⊢
  induction entries with
  | nil => simp
  | cons e r ih =>
    obtain ⟨he, hr⟩ := List.pairwise_cons.mp h
    by_cases hkey : e.1 = key
    · have hrest : (key, url) ∉ r := fun hmem =>
        String.lt_irrefl key (hkey ▸ he (key, url) hmem)
      rw [List.find?_cons_of_pos (by simpa using hkey), List.mem_cons]
      constructor
      · intro heq
        obtain rfl : e.2 = url := by simpa using heq
        exact .inl (by rw [← hkey])
      · rintro (rfl | hmem)
        · rfl
        · exact absurd hmem hrest
    · rw [List.find?_cons_of_neg (by simpa using hkey), ih hr, List.mem_cons]
      exact ⟨.inr, fun hmem => hmem.resolve_left fun heq => hkey (by rw [← heq])⟩

/-! ## The longest key that covers a specifier -/

theorem chooses_longer : Chooses (fun e : String × String => e.1.utf8ByteSize)
    fun best e => longer best (some e) where
  first _ := rfl
  next b e := by
    by_cases h : b.1.utf8ByteSize ≤ e.1.utf8ByteSize
    · exact .inr ⟨if_pos h, h⟩
    · exact .inl ⟨if_neg h, Nat.le_of_not_le h⟩

/-- The longest prefix is in front of the specifier. -/
theorem startsWith_of_longestPrefix? {key url : String}
    (h : t.longestPrefix? specifier = some (key, url)) :
    Text.startsWith key specifier = true := by
  have hkey := (List.mem_filter.mp (chooses_longer.of_foldl h).1).2
  exact (Bool.and_eq_true_iff.mp hkey).2

/-- An entry covers what is below its key. -/
def Covers (e : String × String) (specifier : String) : Prop :=
  Text.endsWith "/" e.1 = true ∧ Text.startsWith e.1 specifier = true

/-- Two keys of the same length in front of one specifier are the same. -/
theorem eq_of_startsWith {a b : String} (ha : Text.startsWith a specifier = true)
    (hb : Text.startsWith b specifier = true) (h : a.utf8ByteSize = b.utf8ByteSize) : a = b := by
  have hnil {c d : String} {z : List Char} (hz : c.toList ++ z = d.toList)
      (hsize : c.utf8ByteSize = d.utf8ByteSize) : c = d := by
    have hcd : d = c ++ String.ofList z := by
      rw [← String.toList_inj, String.toList_append, String.toList_ofList, hz]
    rw [hcd, String.utf8ByteSize_append] at hsize
    have hempty : String.ofList z = "" := String.utf8ByteSize_eq_zero_iff.mp (by omega)
    rw [hcd, hempty, String.append_empty]
  rcases List.prefix_or_prefix_of_prefix (Text.startsWith_eq_true.mp ha)
    (Text.startsWith_eq_true.mp hb) with ⟨z, hz⟩ | ⟨z, hz⟩
  · exact hnil hz h
  · exact (hnil hz h.symm).symm

theorem longestPrefix?_eq_none :
    t.longestPrefix? specifier = none ↔ ∀ e ∈ t.entries, ¬ Covers e specifier := by
  rw [longestPrefix?, chooses_longer.foldl_eq_none, List.filter_eq_nil_iff]
  simp [Covers]

/-- What is found below a key is found below the longest one that covers the specifier. -/
theorem longestPrefix?_eq_some (h : ImportMap.InOrder t.entries) :
    t.longestPrefix? specifier = some (key, url) ↔
      (key, url) ∈ t.entries ∧ Covers (key, url) specifier ∧
        ∀ e ∈ t.entries, Covers e specifier → e.1.utf8ByteSize ≤ key.utf8ByteSize := by
  constructor
  · intro hlongest
    obtain ⟨hmem, hmax⟩ := chooses_longer.of_foldl hlongest
    obtain ⟨hentry, hcovers⟩ := List.mem_filter.mp hmem
    refine ⟨hentry, by simpa [Covers] using hcovers, fun e he hcov => ?_⟩
    exact hmax e (List.mem_filter.mpr ⟨he, by simpa [Covers] using hcov⟩)
  · rintro ⟨hmem, hcovers, hmax⟩
    cases hlongest : t.longestPrefix? specifier with
    | none => exact absurd hcovers (longestPrefix?_eq_none.mp hlongest _ hmem)
    | some m =>
      obtain ⟨hin, hlongest⟩ := chooses_longer.of_foldl hlongest
      obtain ⟨hentry, hm⟩ := List.mem_filter.mp hin
      have hcov : Covers m specifier := by simpa [Covers] using hm
      have hle := hlongest (key, url)
        (List.mem_filter.mpr ⟨hmem, by simpa [Covers] using hcovers⟩)
      have hkey : m.1 = key :=
        eq_of_startsWith hcov.2 hcovers.2 (Nat.le_antisymm (hmax m hentry hcov) hle)
      have hurl : some url = some m.2 :=
        ((entry?_eq_some h).mpr hmem).symm.trans ((entry?_eq_some h).mpr (by rwa [← hkey]))
      rw [← hkey, Option.some.inj hurl]

/-- A specifier without a URL is neither a key of the table nor below one. -/
theorem resolve?_eq_none (h : t.resolve? specifier = none) :
    t.entry? specifier = none ∧ t.longestPrefix? specifier = none := by
  rw [resolve?] at h
  cases hentry : t.entry? specifier with
  | some url => simp [hentry] at h
  | none =>
    refine ⟨rfl, ?_⟩
    cases hlongest : t.longestPrefix? specifier with
    | none => rfl
    | some e =>
      obtain ⟨rest, hrest⟩ := Option.isSome_iff_exists.mp (startsWith_of_longestPrefix? hlongest)
      simp [hentry, hlongest, hrest] at h

/-- What is below a key leads to the same place below the key's URL. -/
theorem resolve?_below (hentry : t.entry? specifier = none)
    (hlongest : t.longestPrefix? specifier = some (key, url)) :
    ∃ rest, specifier = key ++ rest ∧ t.resolve? specifier = some (url ++ rest) := by
  obtain ⟨rest, hrest⟩ := Option.isSome_iff_exists.mp (startsWith_of_longestPrefix? hlongest)
  exact ⟨rest, Text.after?_eq_some.mp hrest, by simp [resolve?, hentry, hlongest, hrest]⟩

end ImportTable

end LivePreview
