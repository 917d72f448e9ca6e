import LivePreview.Json.Decode
import Mathlib.Data.List.Forall2
import Mathlib.Data.List.Induction
import Mathlib.Data.List.Nodup
/-!
# Reading a list and choosing from it, and members that are repeated

A reader that is applied to each member of a list, and fails with the first member that it fails at,
gives as many results as there are members, each of them for the member in its place
(`forall₂_of_mapM`).

A fold that keeps one of the members it has seen, and of two members never the smaller one, finds
nothing in the empty list only (`Chooses.foldl_eq_none`); what it finds in another list is one of
the members and as large as any of them (`Chooses.of_foldl`).

An object may have a key more than once. The value of the key is that of its last member
(`Json.Has`), and merging keeps exactly these values (`Json.get?_merged`). A merged object has each
key once, so a record can be read from it whatever other members it has, and its fields are the
members of the object (`Json.exists_record?_merged`).
-/
namespace LivePreview

/-! ## Reading each member -/

section

universe u

variable {α β : Type u} {read : α → Option β} {members : List α} {results : List β}

theorem forall₂_of_mapM (h : members.mapM read = some results) :
    List.Forall₂ (fun x y => read x = some y) members results := by
  induction members generalizing results with
  | nil =>
    obtain rfl : [] = results := by simpa using h
    exact .nil
  | cons x rest ih =>
    rw [List.mapM_cons] at h
    obtain ⟨y, hy, h⟩ := Option.bind_eq_some_iff.mp h
    obtain ⟨ys, hys, h⟩ := Option.bind_eq_some_iff.mp h
    obtain rfl : y :: ys = results := by simpa using h
    exact .cons hy (ih hys)

theorem mapM_of_forall₂ (h : List.Forall₂ (fun x y => read x = some y) members results) :
    members.mapM read = some results := by
  induction h with
  | nil => rfl
  | cons hread _ ih => rw [List.mapM_cons, hread, ih]; rfl

/-- There is one result for each member. -/
theorem length_of_mapM (h : members.mapM read = some results) : results.length = members.length :=
  (forall₂_of_mapM h).length_eq.symm

/-- Each result is what some member reads as. -/
theorem exists_mem_of_mapM (h : members.mapM read = some results) {y : β} (hy : y ∈ results) :
    ∃ x ∈ members, read x = some y := by
  have hall := forall₂_of_mapM h
  clear h
  induction hall with
  | nil => simp at hy
  | cons hread _ ih =>
    rcases List.mem_cons.mp hy with rfl | hy
    · exact ⟨_, List.mem_cons_self, hread⟩
    · obtain ⟨x, hx, hread⟩ := ih hy
      exact ⟨x, List.mem_cons_of_mem _ hx, hread⟩

/-- Two lists behind each other are read one by one. -/
theorem mapM_append_eq_some {more : List α} :
    (members ++ more).mapM read = some results ↔
      ∃ first second, members.mapM read = some first ∧ more.mapM read = some second ∧
        first ++ second = results := by
  simp [List.mapM_append, Option.bind_eq_some_iff]

/-- A list can be matched with another one, of members of a kind, if each of its members can be
matched with one of the kind. -/
theorem exists_forall₂_iff {R : α → β → Prop} {p : β → Prop} :
    (∃ ys, List.Forall₂ R members ys ∧ ∀ y ∈ ys, p y) ↔ ∀ x ∈ members, ∃ y, R x y ∧ p y := by
  constructor
  · rintro ⟨ys, h, hall⟩
    induction h with
    | nil => simp
    | cons hxy _ ih =>
      obtain ⟨hy, hrest⟩ := List.forall_mem_cons.mp hall
      exact List.forall_mem_cons.mpr ⟨⟨_, hxy, hy⟩, ih hrest⟩
  · intro h
    induction members with
    | nil => exact ⟨[], .nil, by simp⟩
    | cons x rest ih =>
      obtain ⟨⟨y, hxy, hy⟩, hrest⟩ := List.forall_mem_cons.mp h
      obtain ⟨ys, hys, hall⟩ := ih hrest
      exact ⟨y :: ys, .cons hxy hys, List.forall_mem_cons.mpr ⟨hy, hall⟩⟩

end

/-! ## Choosing one member -/

section

variable {α κ : Type} [LE κ] {size : α → κ} {choose : Option α → α → Option α}

/-- The first member is kept, and of the one that is kept and another one the larger. -/
structure Chooses (size : α → κ) (choose : Option α → α → Option α) : Prop where
  first : ∀ a, choose none a = some a
  next : ∀ b a, choose (some b) a = some b ∧ size a ≤ size b ∨
    choose (some b) a = some a ∧ size b ≤ size a

namespace Chooses

variable [Std.IsPreorder κ] (h : Chooses size choose)
include h

theorem foldl_some (xs : List α) (b : α) : ∃ m, xs.foldl choose (some b) = some m ∧
    m ∈ b :: xs ∧ ∀ a ∈ b :: xs, size a ≤ size m := by
  induction xs generalizing b with
  | nil => exact ⟨b, rfl, List.mem_cons_self, by simp [Std.le_refl]⟩
  | cons x xs ih =>
    -- the one that is kept stands for the other one in the rest of the list
    have hkept : ∀ k, choose (some b) x = some k → k = b ∨ k = x →
        size b ≤ size k → size x ≤ size k →
        ∃ m, (x :: xs).foldl choose (some b) = some m ∧ m ∈ b :: x :: xs ∧
          ∀ a ∈ b :: x :: xs, size a ≤ size m := by
      intro k hk hmem hb hx
      obtain ⟨m, hm, hin, hmax⟩ := ih k
      have hkm : size k ≤ size m := hmax k List.mem_cons_self
      refine ⟨m, by rw [List.foldl_cons, hk, hm], by grind, ?_⟩
      intro a ha
      rcases List.mem_cons.mp ha with rfl | ha
      · exact Std.le_trans hb hkm
      · rcases List.mem_cons.mp ha with rfl | ha
        · exact Std.le_trans hx hkm
        · exact hmax a (List.mem_cons_of_mem k ha)
    rcases h.next b x with ⟨hb, hle⟩ | ⟨hx, hle⟩
    · exact hkept b hb (.inl rfl) (Std.le_refl _) hle
    · exact hkept x hx (.inr rfl) hle (Std.le_refl _)

theorem foldl_eq_none {xs : List α} : xs.foldl choose none = none ↔ xs = [] := by
  cases xs with
  | nil => simp
  | cons x xs =>
    obtain ⟨m, hm, -⟩ := h.foldl_some xs x
    rw [List.foldl_cons, h.first, hm]
    simp

/-- What is found is one of the members, and as large as any of them. -/
theorem of_foldl {xs : List α} {m : α} (hm : xs.foldl choose none = some m) :
    m ∈ xs ∧ ∀ a ∈ xs, size a ≤ size m := by
  cases xs with
  | nil => cases hm
  | cons x xs =>
    obtain ⟨k, hk, hmem, hmax⟩ := h.foldl_some xs x
    rw [List.foldl_cons, h.first, hk] at hm
    obtain rfl := Option.some.inj hm
    exact ⟨hmem, hmax⟩

end Chooses

end

end LivePreview

/-! ## Members that are repeated -/

namespace LivePreview.Json

variable {j v : Json} {key : String} {ms : List (String × Json)}

/-- A value is an object with a value under a key: the last member with the key counts. -/
def Has (j : Json) (key : String) (v : Json) : Prop :=
  ∃ front back, j = obj (front ++ (key, v) :: back) ∧ ∀ m ∈ back, m.1 ≠ key

/-! ## What merging keeps -/

theorem mergedElements_eq (js : List Json) : mergedElements js = js.map merged := by
  induction js with
  | nil => rfl
  | cons j js ih => rw [mergedElements, ih, List.map_cons]

theorem mergedMembers_eq (ms : List (String × Json)) :
    mergedMembers ms = ms.map fun m => (m.1, m.2.merged) := by
  induction ms with
  | nil => rfl
  | cons m ms ih => rw [mergedMembers, ih, List.map_cons]

theorem mergeMembers_concat (ms : List (String × Json)) (m : String × Json) :
    mergeMembers (ms ++ [m]) = setMember m.1 m.2 (mergeMembers ms) := by
  simp [mergeMembers]

theorem find?_setMember (k key : String) (v : Json) (ms : List (String × Json)) :
    (setMember k v ms).find? (fun m => m.1 = key) =
      if k = key then some (k, v) else ms.find? (fun m => m.1 = key) := by
  induction ms with
  | nil => by_cases hk : k = key <;> simp [setMember, hk]
  | cons m ms ih =>
    obtain ⟨l, u⟩ := m
    by_cases hl : l = k
    · subst hl
      by_cases hkey : l = key <;> simp [setMember, hkey]
    · rw [setMember, if_neg hl, List.find?_cons, List.find?_cons, ih]
      by_cases hk : k = key
      · subst hk
        simp [hl]
      · simp [hk]

/-- The first member of a merged object is the last one that it was merged from. -/
theorem find?_mergeMembers (ms : List (String × Json)) (key : String) :
    (mergeMembers ms).find? (fun m => m.1 = key) = ms.reverse.find? fun m => m.1 = key := by
  -- members are merged in order, so the last one with a key is the last one set
  induction ms using List.reverseRecOn with
  | nil => rfl
  | append_singleton ms m ih =>
    rw [mergeMembers_concat, find?_setMember, ih, List.reverse_append, List.reverse_singleton,
      List.singleton_append, List.find?_cons]
    obtain ⟨k, v⟩ := m
    by_cases hk : k = key <;> simp [hk]

theorem has_iff_find? : (obj ms).Has key v ↔
    ms.reverse.find? (fun m => m.1 = key) = some (key, v) := by
  rw [List.find?_eq_some_iff_append]
  constructor
  · rintro ⟨front, back, hms, hback⟩
    obtain rfl := obj.inj hms
    exact ⟨by simp, back.reverse, front.reverse, by simp, by simpa using hback⟩
  · rintro ⟨-, front, back, hms, hfront⟩
    refine ⟨back.reverse, front.reverse, ?_, by simpa using hfront⟩
    rw [← List.reverse_inj.mp (hms.trans (by simp) :
      ms.reverse = (back.reverse ++ (key, v) :: front.reverse).reverse)]

theorem merged_eq_str {s : String} : v.merged = str s ↔ v = str s := by
  cases v <;> simp [merged]

theorem merged_eq_arr {js : List Json} : v.merged = arr js ↔ ∃ us, v = arr us ∧ us.map merged = js := by
  cases v <;> simp [merged, mergedElements_eq]

/-- **A merged object keeps the last value of each key,** and nothing else. -/
theorem get?_merged : j.merged.get? key = some v ↔ ∃ u, j.Has key u ∧ u.merged = v := by
  cases j with
  | obj ms =>
    have hlast : (obj ms).merged.get? key =
        ((ms.reverse.find? fun m => m.1 = key).map fun m => (m.1, m.2.merged)).map (·.2) := by
      rw [merged, mergedMembers_eq, get?, find?_mergeMembers, ← List.map_reverse, List.find?_map]
      rfl
    simp only [hlast, has_iff_find?, Option.map_map, Option.map_eq_some_iff, Prod.exists,
      Function.comp_apply]
    constructor
    · rintro ⟨k, u, hfind, rfl⟩
      obtain rfl : k = key := by simpa using List.find?_some hfind
      exact ⟨u, hfind, rfl⟩
    · rintro ⟨u, hfind, rfl⟩
      exact ⟨key, u, hfind, rfl⟩
  | _ => simp [merged, get?, Has]

/-! ## Records in merged objects -/

/-- The keys of some members, in order. -/
def keys (ms : List (String × Json)) : List String := ms.map (·.1)

theorem distinctKeys_iff : distinctKeys ms = true ↔ (keys ms).Nodup := by
  induction ms with
  | nil => simp [distinctKeys, keys]
  | cons m ms ih =>
    have hcons : keys (m :: ms) = m.1 :: keys ms := rfl
    have hfirst : (!ms.any fun n => n.1 = m.1) = true ↔ m.1 ∉ keys ms := by
      simp only [keys, List.mem_map, Bool.not_eq_true', List.any_eq_false, decide_eq_true_eq,
        not_exists, not_and]
    rw [distinctKeys, Bool.and_eq_true, ih, hcons, List.nodup_cons, hfirst]

theorem keys_setMember (k : String) (v : Json) (ms : List (String × Json)) :
    keys (setMember k v ms) = if k ∈ keys ms then keys ms else keys ms ++ [k] := by
  induction ms with
  | nil => simp [setMember, keys]
  | cons m ms ih =>
    obtain ⟨l, u⟩ := m
    by_cases hl : l = k
    · simp [setMember, keys, hl]
    · have hcons : ∀ us, keys ((l, u) :: us) = l :: keys us := fun _ => rfl
      rw [setMember, if_neg hl, hcons, hcons, ih]
      by_cases hk : k ∈ keys ms <;> simp [hk, Ne.symm hl]

theorem nodup_mergeMembers (ms : List (String × Json)) : (keys (mergeMembers ms)).Nodup := by
  induction ms using List.reverseRecOn with
  | nil => exact List.nodup_nil
  | append_singleton ms m ih =>
    rw [mergeMembers_concat, keys_setMember]
    split
    · exact ih
    · rename_i hm
      exact List.nodup_append.mpr ⟨ih, List.nodup_singleton _, by grind⟩

/-- **A record is read from a merged object:** no field is given twice, and its fields are the
members of the object. -/
theorem exists_record?_merged (names : List String) {us : List (String × Json)}
    (hj : j = obj us) : ∃ r, j.merged.record? names = some r ∧
      ∀ key ∈ names, ∀ {α : Type} (decode : Json → Option α),
        r.required key decode = (j.merged.get? key).bind decode := by
  subst hj
  rw [merged]
  set ms := mergeMembers (mergedMembers us) with hms
  have hknown : distinctKeys (ms.filter fun m => names.contains m.1) = true := by
    rw [distinctKeys_iff, keys]
    exact (nodup_mergeMembers _).sublist (List.filter_sublist.map _)
  refine ⟨⟨ms.filter fun m => names.contains m.1, false⟩, by rw [record?, if_pos hknown], ?_⟩
  intro key hkey α decode
  rw [Record.required, Record.value?, get?, List.find?_filter]
  congr 3
  grind

end LivePreview.Json
