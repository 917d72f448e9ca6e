import LivePreview.Example.Loader
/-!
# The newest fetch of the index

Responses come back in any order, late, twice or never. One has an effect if it belongs to the fetch
that was begun last and was not given up since, and any other one leaves the loader as it is. So
what a loader shows hangs on the last call that had an effect (`only_newest_fetch_lands`).

A `History` lists the calls on a loader with their answers. Its invariant is `Tells`: the number
given out last is that of the current fetch as long as there is one, for giving up takes a number
of its own, which nobody gets.
-/
namespace LivePreview.ExampleLoader

/-- The loader behind a response, and whether the response had an effect. -/
def complete (l : ExampleLoader) (id : Nat) (body : Except String String) : ExampleLoader × Bool :=
  match l.complete? id body with
  | some l' => (l', true)
  | none => (l, false)

/-- What a fetch brought is there, either an index or why there is none. -/
def Shows (l : ExampleLoader) : Except String ExampleIndex → Prop
  | .ok index => l.data = some index ∧ l.error = none
  | .error message => l.data = none ∧ l.error = some message

/-! ## Histories -/

/-- A call on a loader, with its answer. -/
inductive Turn where
  | began (id : Nat)
  | cancelled
  | completed (id : Nat) (body : Except String String) (landed : Bool)

/-- Whether a fetch was begun or given up. -/
def Turn.isRequest : Turn → Bool
  | .completed .. => false
  | _ => true

/-- Whether a call had an effect. -/
def Turn.isAccepted : Turn → Bool
  | .completed _ _ landed => landed
  | _ => true

/-- The last turn of a kind. -/
def lastOf (kind : Turn → Bool) (turns : List Turn) : Option Turn := (turns.filter kind).getLast?

/-- The fetch was begun last, and nothing was given up since. -/
def Current (turns : List Turn) (id : Nat) : Prop :=
  lastOf Turn.isRequest turns = some (.began id)

/-- Calls one after the other on a new loader. A response answers a fetch that was begun. -/
inductive History : List Turn → ExampleLoader → Prop where
  | start : History [] start
  | begin {turns : List Turn} {l : ExampleLoader} (h : History turns l) :
      History (turns ++ [.began l.begin.2]) l.begin.1
  | cancel {turns : List Turn} {l : ExampleLoader} (h : History turns l) :
      History (turns ++ [.cancelled]) l.cancel
  | complete {turns : List Turn} {l : ExampleLoader} {id : Nat} (h : History turns l)
      (hid : .began id ∈ turns) (body : Except String String) :
      History (turns ++ [.completed id body (l.complete id body).2]) (l.complete id body).1

variable {turns : List Turn} {l : ExampleLoader} {id : Nat} {body : Except String String}

section
variable {kind : Turn → Bool} {t : Turn}

theorem lastOf_concat (h : kind t = true) (turns : List Turn) :
    lastOf kind (turns ++ [t]) = some t := by
  simp [lastOf, List.filter_append, h]

theorem lastOf_concat_of_not (h : kind t = false) (turns : List Turn) :
    lastOf kind (turns ++ [t]) = lastOf kind turns := by
  simp [lastOf, List.filter_append, h]

end

/-! ## One response -/

/-- Only the number given out last makes a difference. -/
theorem complete_cases (l : ExampleLoader) (id : Nat) (body : Except String String) :
    (l.sequence.isLatest id = false ∧ l.complete id body = (l, false)) ∨
      (l.sequence.isLatest id = true ∧ (l.complete id body).2 = true ∧
        (l.complete id body).1.sequence = l.sequence ∧ (l.complete id body).1.loading = false ∧
        (l.complete id body).1.Shows (outcome body)) := by
  unfold complete complete?
  cases hlatest : l.sequence.isLatest id with
  | false => exact .inl ⟨rfl, rfl⟩
  | true => cases outcome body <;> exact .inr ⟨rfl, rfl, rfl, rfl, rfl, rfl⟩

theorem complete_fst_of_refused (h : (l.complete id body).2 = false) :
    (l.complete id body).1 = l := by
  rcases complete_cases l id body with ⟨-, hrefused⟩ | ⟨-, hlanded, -⟩
  · rw [hrefused]
  · cases h.symm.trans hlanded

theorem isLatest_iff {s : RequestSequence} : s.isLatest id = true ↔ id ≠ 0 ∧ id = s.issued := by
  simp [RequestSequence.isLatest]

/-! ## All calls -/

/-- What the calls so far say about a loader. -/
structure Tells (turns : List Turn) (l : ExampleLoader) : Prop where
  ids : ∀ id, .began id ∈ turns → 0 < id ∧ id ≤ l.sequence.issued
  /-- Giving up takes a number as well, so that the last number belongs to no fetch then. -/
  current : ∀ id, Current turns id ↔ .began id ∈ turns ∧ id = l.sequence.issued
  loading : l.loading = true ↔ ∃ id, lastOf Turn.isAccepted turns = some (.began id)
  shown : ∀ id body, lastOf Turn.isAccepted turns = some (.completed id body true) →
    l.Shows (outcome body)

theorem tells_start : Tells [] start :=
  ⟨by simp, by simp [Current, lastOf], by simp [start, lastOf], by simp [lastOf]⟩

theorem Tells.begin (h : Tells turns l) : Tells (turns ++ [.began l.begin.2]) l.begin.1 := by
  have hid : l.begin.2 = l.sequence.issued + 1 := rfl
  have hissued : l.begin.1.sequence.issued = l.sequence.issued + 1 := rfl
  refine ⟨?_, ?_, ?_, ?_⟩
  · intro id hmem
    rw [hissued]
    rcases List.mem_append.mp hmem with hmem | hmem
    · have hold := h.ids id hmem
      omega
    · obtain rfl : id = l.begin.2 := by simpa using hmem
      omega
  · intro id
    rw [Current, lastOf_concat rfl, hissued, hid]
    constructor
    · intro hcurrent
      obtain rfl : l.sequence.issued + 1 = id := by simpa using hcurrent
      simp
    · rintro ⟨-, rfl⟩
      rfl
  · rw [lastOf_concat rfl]
    exact ⟨fun _ => ⟨_, rfl⟩, fun _ => rfl⟩
  · intro id body hlast
    rw [lastOf_concat rfl] at hlast
    cases hlast

theorem Tells.cancel (h : Tells turns l) : Tells (turns ++ [.cancelled]) l.cancel := by
  have hissued : l.cancel.sequence.issued = l.sequence.issued + 1 := rfl
  have hmem : ∀ id, Turn.began id ∈ turns ++ [.cancelled] ↔ .began id ∈ turns := by simp
  refine ⟨?_, ?_, ?_, ?_⟩
  · intro id hbegan
    have hold := h.ids id ((hmem id).mp hbegan)
    omega
  · intro id
    rw [Current, lastOf_concat rfl, hmem, hissued]
    constructor
    · intro hcurrent
      cases hcurrent
    · rintro ⟨hbegan, rfl⟩
      have hold := h.ids _ hbegan
      omega
  · rw [lastOf_concat rfl]
    constructor
    · intro hloading
      cases hloading
    · rintro ⟨id, hlast⟩
      cases hlast
  · intro id body hlast
    rw [lastOf_concat rfl] at hlast
    cases hlast

/-- A response has an effect if it belongs to the current fetch. -/
theorem Tells.complete_snd_iff (h : Tells turns l) (hid : .began id ∈ turns) :
    (l.complete id body).2 = true ↔ Current turns id := by
  have hpos : 0 < id := (h.ids id hid).1
  rw [h.current id]
  rcases complete_cases l id body with ⟨hlatest, hrefused⟩ | ⟨hlatest, hlanded, -⟩
  · have hother : id ≠ l.sequence.issued := by
      intro heq
      rw [isLatest_iff.mpr ⟨by omega, heq⟩] at hlatest
      cases hlatest
    simp [hrefused, hother]
  · exact ⟨fun _ => ⟨hid, (isLatest_iff.mp hlatest).2⟩, fun _ => hlanded⟩

theorem Tells.complete (h : Tells turns l) (id : Nat) (body : Except String String) :
    Tells (turns ++ [.completed id body (l.complete id body).2]) (l.complete id body).1 := by
  -- a response begins nothing, so the first two facts hang on the numbers only
  have hmem : ∀ k, Turn.began k ∈ turns ++ [.completed id body (l.complete id body).2] ↔
      .began k ∈ turns := by simp
  have hcurrent : ∀ k, Current (turns ++ [.completed id body (l.complete id body).2]) k ↔
      Current turns k := by
    intro k
    rw [Current, lastOf_concat_of_not rfl, Current]
  rcases complete_cases l id body with ⟨-, hrefused⟩ | ⟨-, hlanded, hsequence, hidle, hshows⟩
  · have hlast : lastOf Turn.isAccepted (turns ++ [.completed id body (l.complete id body).2]) =
        lastOf Turn.isAccepted turns := by
      rw [hrefused, lastOf_concat_of_not rfl]
    constructor
    · intro k hk
      rw [hrefused]
      exact h.ids k ((hmem k).mp hk)
    · intro k
      rw [hcurrent, hmem, h.current, hrefused]
    · rw [hlast, hrefused]
      exact h.loading
    · rw [hlast, hrefused]
      exact h.shown
  · have hlast : lastOf Turn.isAccepted (turns ++ [.completed id body (l.complete id body).2]) =
        some (.completed id body true) := by
      rw [hlanded, lastOf_concat rfl]
    constructor
    · intro k hk
      rw [hsequence]
      exact h.ids k ((hmem k).mp hk)
    · intro k
      rw [hcurrent, hmem, h.current, hsequence]
    · simp [hlast, hidle]
    · intro k other hk
      obtain ⟨-, rfl⟩ : id = k ∧ body = other := by simpa [hlast] using hk
      exact hshows

theorem History.tells (h : History turns l) : Tells turns l := by
  induction h with
  | start => exact tells_start
  | begin _ ih => exact ih.begin
  | cancel _ ih => exact ih.cancel
  | complete _ _ body ih => exact ih.complete _ body

/-- **Only the newest fetch lands.** Behind any calls, a response to a fetch that was begun has an
effect if and only if that fetch was begun last and nothing was given up since, and without an
effect it leaves the loader as it is. The loader is loading if and only if the last call that had an
effect began a fetch. If that call was a response, what is shown is what the response brought.
Beginning and giving up keep the index that is there. -/
theorem only_newest_fetch_lands (h : History turns l) :
    (∀ id body, .began id ∈ turns → ((l.complete id body).2 = true ↔ Current turns id)) ∧
      (∀ id body, (l.complete id body).2 = false → (l.complete id body).1 = l) ∧
      (l.loading = true ↔ ∃ id, lastOf Turn.isAccepted turns = some (.began id)) ∧
      (∀ id body, lastOf Turn.isAccepted turns = some (.completed id body true) →
        l.loading = false ∧ l.Shows (outcome body)) ∧
      l.begin.1.data = l.data ∧ l.cancel.data = l.data := by
  have htells := h.tells
  refine ⟨fun id body hid => htells.complete_snd_iff hid, fun id body => complete_fst_of_refused,
    htells.loading, fun id body hlast => ⟨?_, htells.shown id body hlast⟩, rfl, rfl⟩
  cases hloading : l.loading with
  | false => rfl
  | true =>
    obtain ⟨k, hbegan⟩ := htells.loading.mp hloading
    cases hlast.symm.trans hbegan

/-- Two fetches are begun. The response to the first one comes late, then the second one fails. -/
theorem only_newest_fetch_lands_of_two :
    ∃ l, History [.began 1, .began 2, .completed 1 (.ok "") false,
        .completed 2 (.error "offline") true] l ∧
      (l.complete 1 (.ok "")).2 = false ∧ (l.complete 2 (.ok "")).2 = true ∧
      l.loading = false ∧ l.Shows (.error "offline") := by
  have hfirst : Turn.began 1 ∈ [Turn.began 1, .began 2] := by simp
  have hsecond : Turn.began 2 ∈ [Turn.began 1, .began 2, .completed 1 (.ok "") false] := by simp
  have hlate : History [.began 1, .began 2, .completed 1 (.ok "") false]
      ⟨⟨2, 0⟩, true, none, none⟩ := History.start.begin.begin.complete hfirst (.ok "")
  have hfailed : History [.began 1, .began 2, .completed 1 (.ok "") false,
      .completed 2 (.error "offline") true] ⟨⟨2, 0⟩, false, none, some "offline"⟩ :=
    hlate.complete hsecond (.error "offline")
  obtain ⟨hlands, -, -, hlast, -⟩ := only_newest_fetch_lands hfailed
  obtain ⟨hidle, hshows⟩ := hlast 2 (.error "offline") rfl
  exact ⟨_, hfailed, rfl, (hlands 2 (.ok "") (by simp)).mpr rfl, hidle, hshows⟩

end LivePreview.ExampleLoader
