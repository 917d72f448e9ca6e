import LivePreview.Proofs.StyleDelivery
/-!
# The newest stylesheet wins

Responses come back to the client in any order. A stylesheet is applied if its number is higher than
that of every stylesheet before it, so the client never goes back to an older one. A failure counts
only if it belongs to the request made last: then the client forgets that it has asked for the set,
and a source that asks for the set again gets a request of its own.

A `History` lists what was asked of a client and what it heard. Two invariants tie the client's few
fields to it: `Numbered` for the numbers given out and the set that would not be asked for again, and
`Newest` for the numbers applied. The main statement is `newest_stylesheet_wins`.
-/
namespace LivePreview

/-- The number of the request that a response answers. -/
def StyleResponse.id? : StyleResponse → Option Nat
  | .ready => none
  | .css _ id => some id
  | .failed _ id => id

namespace Style.StyleClient

/-! ## Histories -/

/-- A stylesheet was asked for, or a response was heard, and what came of it. -/
inductive Turn where
  | asked (candidates : List String) (request : Option StyleRequest)
  | heard (response : StyleResponse) (event : StyleEvent)

/-- The requests that a turn makes. -/
def Turn.made : Turn → List StyleRequest
  | .asked _ request => request.toList
  | .heard _ event => event.asked

/-- The candidates that were asked for. -/
def Turn.candidates? : Turn → Option (List String)
  | .asked candidates _ => some candidates
  | .heard _ _ => none

/-- The number of the request that was answered. -/
def Turn.answered? : Turn → Option Nat
  | .asked _ _ => none
  | .heard response _ => response.id?

/-- The stylesheet that came back, with its number. -/
def Turn.sheet? : Turn → Option (Nat × String)
  | .heard (.css text id) _ => some (id, text)
  | _ => none

/-- The number of the stylesheet that was applied. -/
def Turn.applied? : Turn → Option Nat
  | .heard response (.apply _) => response.id?
  | _ => none

section Logs

variable (turns : List Turn)

def made : List StyleRequest := turns.flatMap Turn.made
def calls : List (List String) := turns.filterMap Turn.candidates?
def answered : List Nat := turns.filterMap Turn.answered?
def sheets : List (Nat × String) := turns.filterMap Turn.sheet?
def applied : List Nat := turns.filterMap Turn.applied?

variable (t : Turn)

@[simp] theorem made_concat : made (turns ++ [t]) = made turns ++ t.made := by simp [made]

@[simp] theorem calls_concat : calls (turns ++ [t]) = calls turns ++ t.candidates?.toList := by
  cases h : t.candidates? <;> simp [calls, h]

@[simp] theorem answered_concat :
    answered (turns ++ [t]) = answered turns ++ t.answered?.toList := by
  cases h : t.answered? <;> simp [answered, h]

@[simp] theorem sheets_concat : sheets (turns ++ [t]) = sheets turns ++ t.sheet?.toList := by
  cases h : t.sheet? <;> simp [sheets, h]

@[simp] theorem applied_concat : applied (turns ++ [t]) = applied turns ++ t.applied?.toList := by
  cases h : t.applied? <;> simp [applied, h]

end Logs

/-- Stylesheets are asked for, the worker announces itself, and requests that were made are answered
in any order. -/
inductive History (baseline : List String) : List Turn → StyleClient → Prop
  | start : History baseline [] (start baseline)
  | ask {turns : List Turn} {c : StyleClient} (candidates : List String) :
      History baseline turns c →
      History baseline (turns ++ [.asked candidates (c.request candidates).2])
        (c.request candidates).1
  | ready {turns : List Turn} {c : StyleClient} : History baseline turns c →
      History baseline (turns ++ [.heard .ready (c.respond .ready).2]) (c.respond .ready).1
  | answer {turns : List Turn} {c : StyleClient} (r : StyleResponse) (q : StyleRequest) :
      History baseline turns c → q ∈ made turns → r.id? = some q.id →
      History baseline (turns ++ [.heard r (c.respond r).2]) (c.respond r).1

/-! ## What a turn does -/

variable {baseline : List String} {turns : List Turn} {c c' : StyleClient} {t : Turn}

/-- The cases of a turn. -/
inductive Outcome (c : StyleClient) : Turn → StyleClient → Prop
  /-- There is nothing to ask for, or it was asked for last. -/
  | spared (cs : List String) : c.merged cs = [] ∨ c.lastSent = some (c.merged cs) →
      Outcome c (.asked cs none) c
  | held (cs : List String) : c.ready = false → c.merged cs ≠ [] →
      Outcome c (.asked cs none) { c with held := some (c.merged cs) }
  | issued (cs : List String) : c.ready = true → c.merged cs ≠ [] →
      c.lastSent ≠ some (c.merged cs) →
      Outcome c (.asked cs (some (c.issue (c.merged cs)).2)) (c.issue (c.merged cs)).1
  | opened : Outcome c (.heard .ready .ignored) { c with ready := true, held := none }
  | flushed (key : List String) : c.held = some key →
      Outcome c (.heard .ready (.send (issue { c with ready := true, held := none } key).2))
        (issue { c with ready := true, held := none } key).1
  | applied (text : String) (id : Nat) : c.sequence.applied < id → id ≤ c.sequence.issued →
      Outcome c (.heard (.css text id) (.apply text))
        { c with sequence := ⟨c.sequence.issued, id⟩, current := some text }
  | stale (text : String) (id : Nat) :
      id = 0 ∨ c.sequence.issued < id ∨ id ≤ c.sequence.applied →
      Outcome c (.heard (.css text id) .ignored) c
  | failedLast (message : String) : 0 < c.sequence.issued →
      Outcome c (.heard (.failed message (some c.sequence.issued)) (.failed message))
        { c with lastSent := none }
  | failedEarlier (message : String) (id : Nat) : c.sequence.isLatest id = false →
      Outcome c (.heard (.failed message (some id)) (.failed message)) c

/-- The client makes a request for a set that is not empty and that it did not ask for last. -/
theorem request_of_ready {cs : List String} (havailable : c.unavailable = false)
    (hready : c.ready = true) (hkey : c.merged cs ≠ []) (hlast : c.lastSent ≠ some (c.merged cs)) :
    c.request cs = ((c.issue (c.merged cs)).1, some (c.issue (c.merged cs)).2) := by
  simp [request, havailable, hready, hkey, hlast]

theorem outcome_request (havailable : c.unavailable = false) (cs : List String) :
    Outcome c (.asked cs (c.request cs).2) (c.request cs).1 := by
  by_cases hkey : c.merged cs = []
  · have hrequest : c.request cs = (c, none) := by simp [request, hkey]
    rw [hrequest]
    exact .spared cs (.inl hkey)
  by_cases hlast : c.lastSent = some (c.merged cs)
  · have hrequest : c.request cs = (c, none) := by simp [request, hlast]
    rw [hrequest]
    exact .spared cs (.inr hlast)
  cases hready : c.ready with
  | false =>
    have hrequest : c.request cs = ({ c with held := some (c.merged cs) }, none) := by
      simp [request, havailable, hkey, hlast, hready]
    rw [hrequest]
    exact .held cs hready hkey
  | true =>
    rw [request_of_ready havailable hready hkey hlast]
    exact .issued cs hready hkey hlast

theorem outcome_ready : Outcome c (.heard .ready (c.respond .ready).2) (c.respond .ready).1 := by
  cases hheld : c.held with
  | none =>
    have hrespond : c.respond .ready = ({ c with ready := true, held := none }, .ignored) := by
      simp [respond, onReady, hheld]
    rw [hrespond]
    exact .opened
  | some key =>
    by_cases hlast : c.lastSent = some key
    · have hrespond : c.respond .ready = ({ c with ready := true, held := none }, .ignored) := by
        simp [respond, onReady, hheld, hlast]
      rw [hrespond]
      exact .opened
    · have hrespond : c.respond .ready =
          ((issue { c with ready := true, held := none } key).1,
            .send (issue { c with ready := true, held := none } key).2) := by
        simp [respond, onReady, hheld, hlast]
      rw [hrespond]
      exact .flushed key hheld

theorem outcome_answer {r : StyleResponse} {id : Nat} (hid : r.id? = some id) :
    Outcome c (.heard r (c.respond r).2) (c.respond r).1 := by
  cases r with
  | ready => cases hid
  | css text n =>
    cases haccept : c.sequence.accept? n with
    | some sequence =>
      obtain ⟨hnew, hissued, rfl⟩ := RequestSequence.accept?_eq_some haccept
      have hrespond : c.respond (.css text n) =
          ({ c with sequence := ⟨c.sequence.issued, n⟩, current := some text }, .apply text) := by
        simp [respond, haccept]
      rw [hrespond]
      exact .applied text n hnew hissued
    | none =>
      have hrespond : c.respond (.css text n) = (c, .ignored) := by simp [respond, haccept]
      rw [hrespond]
      refine .stale text n (Classical.byContradiction fun hn => ?_)
      rw [RequestSequence.accept?, if_neg hn] at haccept
      cases haccept
  | failed message n =>
    obtain rfl : n = some id := hid
    cases hlatest : c.sequence.isLatest id with
    | true =>
      obtain ⟨hpos, rfl⟩ : id ≠ 0 ∧ id = c.sequence.issued := by
        simpa [RequestSequence.isLatest] using hlatest
      have hrespond : c.respond (.failed message (some c.sequence.issued)) =
          ({ c with lastSent := none }, .failed message) := by
        simp [respond, hlatest]
      rw [hrespond]
      exact .failedLast message (Nat.pos_of_ne_zero hpos)
    | false =>
      have hrespond : c.respond (.failed message (some id)) = (c, .failed message) := by
        simp [respond, hlatest]
      rw [hrespond]
      exact .failedEarlier message id hlatest

/-! ## What a client remembers of its history -/

/-- A set that is not empty and that was asked for. -/
def Called (turns : List Turn) (c : StyleClient) (key : List String) : Prop :=
  key ≠ [] ∧ ∃ cs ∈ calls turns, c.merged cs = key

/-- How the numbers that were given out follow a history, and the set not asked for again. -/
structure Numbered (turns : List Turn) (c : StyleClient) : Prop where
  available : c.unavailable = false
  /-- Requests are numbered from one on. -/
  ids : (made turns).map StyleRequest.id = List.range' 1 c.sequence.issued
  ready : 0 < c.sequence.issued → c.ready = true
  called : ∀ q ∈ made turns, Called turns c q.candidates
  held : ∀ key, c.held = some key → Called turns c key
  answered_le : ∀ id ∈ answered turns, id ≤ c.sequence.issued
  /-- What was asked for last may be asked for again if that failed. -/
  retry : ∀ message event,
    .heard (.failed message (some c.sequence.issued)) event ∈ turns → c.lastSent = none

/-- How the stylesheet that is shown, and its number, follow a history. -/
structure Newest (turns : List Turn) (number : Nat) (current : Option String) : Prop where
  le : ∀ id ∈ applied turns, id ≤ number
  increasing : (applied turns).Pairwise (· < ·)
  newest : ∀ sheet ∈ sheets turns, sheet.1 ≤ number
  sheet : ∀ text, current = some text → (number, text) ∈ sheets turns
  blank : current = none → sheets turns = [] ∧ number = 0

theorem Called.concat {key : List String} (h : Called turns c key) :
    Called (turns ++ [t]) c key := by
  obtain ⟨hkey, cs, hcs, hmerged⟩ := h
  exact ⟨hkey, cs, by simp [hcs], hmerged⟩

theorem numbered_start (baseline : List String) : Numbered [] (start baseline) := by
  constructor <;> simp [start, RequestSequence.start, made, answered]

theorem newest_start : Newest [] 0 none := by
  constructor <;> simp [applied, sheets]

/-! ### Numbers -/

theorem Numbered.mem_ids (hn : Numbered turns c) {id : Nat} :
    id ∈ (made turns).map StyleRequest.id ↔ 0 < id ∧ id ≤ c.sequence.issued := by
  rw [hn.ids, List.mem_range'_1]
  omega

/-- The request made last has the number that was given out last. -/
theorem Numbered.id_of_last (hn : Numbered turns c) {q : StyleRequest}
    (hq : (made turns).getLast? = some q) : q.id = c.sequence.issued := by
  have hid : ((made turns).map StyleRequest.id).getLast? = some q.id := by
    rw [List.getLast?_map, hq]
    rfl
  rw [hn.ids, List.getLast?_range'] at hid
  split at hid
  · cases hid
  · simp only [Option.some.injEq] at hid
    omega

/-- The failure of a request that was not made yet is not in the history. -/
theorem Numbered.failed_le (hn : Numbered turns c) {message : String} {id : Nat}
    {event : StyleEvent} (h : .heard (.failed message (some id)) event ∈ turns) :
    id ≤ c.sequence.issued :=
  hn.answered_le id (List.mem_filterMap.mpr ⟨_, h, rfl⟩)

/-- A turn that makes no request. -/
theorem Numbered.concat (hn : Numbered turns c) (hmade : t.made = [])
    (hknown : ∀ id, t.answered? = some id → id ≤ c.sequence.issued)
    (hretry : ∀ message event,
      .heard (.failed message (some c.sequence.issued)) event = t → c.lastSent = none) :
    Numbered (turns ++ [t]) c where
  available := hn.available
  ids := by simpa [hmade] using hn.ids
  ready := hn.ready
  called q hq := by
    rw [made_concat, hmade, List.append_nil] at hq
    exact (hn.called q hq).concat
  held key hkey := (hn.held key hkey).concat
  answered_le id hid := by
    rw [answered_concat, List.mem_append, Option.mem_toList] at hid
    exact hid.elim (hn.answered_le id) (hknown id)
  retry message event hmem := by
    rw [List.mem_append, List.mem_singleton] at hmem
    exact hmem.elim (hn.retry message event) (hretry message event)

/-- A request takes the next number, and no failure has that number yet. -/
theorem Numbered.issue (hn : Numbered turns c) (hready : c.ready = true) {key : List String}
    (hkey : Called (turns ++ [t]) c key) (hmade : t.made = [(c.issue key).2])
    (hanswered : t.answered? = none) : Numbered (turns ++ [t]) (c.issue key).1 where
  available := hn.available
  ids := by
    rw [made_concat, hmade, List.map_append, hn.ids, List.map_singleton, issue_eq,
      List.range'_1_concat, Nat.add_comm 1]
  ready _ := hready
  called q hq := by
    rw [made_concat, hmade, List.mem_append, List.mem_singleton] at hq
    rcases hq with hq | rfl
    · exact (hn.called q hq).concat
    · exact hkey
  held k hk := (hn.held k hk).concat
  answered_le id hid := by
    rw [answered_concat, hanswered, Option.toList_none, List.append_nil] at hid
    exact Nat.le_succ_of_le (hn.answered_le id hid)
  retry message event hmem := by
    rw [List.mem_append, List.mem_singleton] at hmem
    rcases hmem with hmem | rfl
    · exact absurd (hn.failed_le hmem) (Nat.not_succ_le_self _)
    · cases hanswered

/-- **A turn keeps the numbers in step with the history**, if only requests are answered that were
made. -/
theorem Numbered.outcome (hn : Numbered turns c) (ho : Outcome c t c')
    (hknown : ∀ id, t.answered? = some id → 0 < id ∧ id ≤ c.sequence.issued) :
    Numbered (turns ++ [t]) c' := by
  have hle : ∀ id, t.answered? = some id → id ≤ c.sequence.issued := fun id h => (hknown id h).2
  have hopened : Numbered turns { c with ready := true, held := none } :=
    { hn with
      ready := fun _ => rfl
      held := fun _ h => by cases h }
  cases ho with
  | spared cs hspared => exact hn.concat rfl hle (fun _ _ h => by cases h)
  | held cs hready hkey =>
    refine { hn.concat rfl hle (fun _ _ h => by cases h) with held := fun key h => ?_ }
    obtain rfl : c.merged cs = key := Option.some.inj h
    exact ⟨hkey, cs, by simp [Turn.candidates?], rfl⟩
  | issued cs hready hkey hlast =>
    exact hn.issue hready ⟨hkey, cs, by simp [Turn.candidates?], rfl⟩ rfl rfl
  | opened => exact hopened.concat rfl hle (fun _ _ h => by cases h)
  | flushed key hheld => exact hopened.issue rfl (hn.held key hheld).concat rfl rfl
  | applied text id hnew hissued =>
    exact { hn.concat rfl hle (fun _ _ h => by cases h) with }
  | stale text id hstale => exact hn.concat rfl hle (fun _ _ h => by cases h)
  | failedLast message hpos =>
    have hforgotten : Numbered turns { c with lastSent := none } :=
      { hn with retry := fun _ _ _ => rfl }
    exact hforgotten.concat rfl hle (fun _ _ _ => rfl)
  | failedEarlier message id hlatest =>
    refine hn.concat rfl hle (fun m event h => ?_)
    -- a number that was given out and is not the last one
    obtain ⟨hpos, -⟩ := hknown id rfl
    cases h
    simp [RequestSequence.isLatest, Nat.ne_of_gt hpos] at hlatest

/-! ### Stylesheets -/

section Stylesheets

variable {number : Nat} {current : Option String}

/-- A turn that brings no stylesheet. -/
theorem Newest.quiet (hn : Newest turns number current) (hsheet : t.sheet? = none)
    (happlied : t.applied? = none) : Newest (turns ++ [t]) number current where
  le := by simpa [happlied] using hn.le
  increasing := by simpa [happlied] using hn.increasing
  newest := by simpa [hsheet] using hn.newest
  sheet := by simpa [hsheet] using hn.sheet
  blank := by simpa [hsheet] using hn.blank

theorem Newest.apply (hn : Newest turns number current) {text : String} {id : Nat}
    (hnew : number < id) :
    Newest (turns ++ [.heard (.css text id) (.apply text)]) id (some text) where
  le i hi := by
    rw [applied_concat, List.mem_append, Option.mem_toList] at hi
    rcases hi with hi | hi
    · exact Nat.le_of_lt (Nat.lt_of_le_of_lt (hn.le i hi) hnew)
    · exact Nat.le_of_eq (Option.some.inj hi).symm
  increasing := by
    rw [applied_concat]
    refine List.pairwise_append.mpr ⟨hn.increasing, List.pairwise_singleton _ _, ?_⟩
    intro i hi j hj
    obtain rfl : id = j := Option.some.inj (Option.mem_toList.mp hj)
    exact Nat.lt_of_le_of_lt (hn.le i hi) hnew
  newest sheet hsheet := by
    rw [sheets_concat, List.mem_append, Option.mem_toList] at hsheet
    rcases hsheet with hsheet | hsheet
    · exact Nat.le_of_lt (Nat.lt_of_le_of_lt (hn.newest sheet hsheet) hnew)
    · exact Nat.le_of_eq (congrArg Prod.fst (Option.some.inj hsheet)).symm
  sheet other h := by
    obtain rfl : text = other := Option.some.inj h
    simp [Turn.sheet?]
  blank h := by cases h

/-- A stylesheet that is not newer than the one applied last. -/
theorem Newest.stale (hn : Newest turns number current) {text : String} {id : Nat}
    (hpos : 0 < id) (hold : id ≤ number) :
    Newest (turns ++ [.heard (.css text id) .ignored]) number current where
  le := by simpa [Turn.applied?] using hn.le
  increasing := by simpa [Turn.applied?] using hn.increasing
  newest sheet hsheet := by
    rw [sheets_concat, List.mem_append, Option.mem_toList] at hsheet
    rcases hsheet with hsheet | hsheet
    · exact hn.newest sheet hsheet
    · obtain rfl : (id, text) = sheet := Option.some.inj hsheet
      exact hold
  sheet other h := by simp [hn.sheet other h]
  blank h := by
    have hzero := (hn.blank h).2
    omega

/-- **A turn keeps the newest stylesheet**, if only requests are answered that were made. -/
theorem Newest.outcome (hn : Newest turns c.sequence.applied c.current) (ho : Outcome c t c')
    (hknown : ∀ id, t.answered? = some id → 0 < id ∧ id ≤ c.sequence.issued) :
    Newest (turns ++ [t]) c'.sequence.applied c'.current := by
  cases ho with
  | spared | held | issued | opened | flushed | failedLast | failedEarlier => exact hn.quiet rfl rfl
  | applied text id hnew hissued => exact hn.apply hnew
  | stale text id hstale =>
    obtain ⟨hpos, hissued⟩ := hknown id rfl
    exact hn.stale hpos (by omega)

end Stylesheets

/-- A stylesheet that came back answered its request. -/
theorem mem_answered_of_mem_sheets {id : Nat} {text : String} (h : (id, text) ∈ sheets turns) :
    id ∈ answered turns := by
  obtain ⟨t, ht, hsheet⟩ := List.mem_filterMap.mp h
  rcases t with _ | ⟨_ | ⟨text, n⟩ | _, event⟩
  case heard.css =>
    obtain ⟨rfl, -⟩ := Prod.mk.inj (Option.some.inj hsheet)
    exact List.mem_filterMap.mpr ⟨_, ht, rfl⟩
  all_goals cases hsheet

/-- A client is in step with its history. -/
theorem History.inStep (h : History baseline turns c) :
    Numbered turns c ∧ Newest turns c.sequence.applied c.current := by
  induction h with
  | start => exact ⟨numbered_start baseline, newest_start⟩
  | ask cs _ ih =>
    have ho := outcome_request ih.1.available cs
    exact ⟨ih.1.outcome ho (by simp [Turn.answered?]), ih.2.outcome ho (by simp [Turn.answered?])⟩
  | ready _ ih =>
    exact ⟨ih.1.outcome outcome_ready (by simp [Turn.answered?, StyleResponse.id?]),
      ih.2.outcome outcome_ready (by simp [Turn.answered?, StyleResponse.id?])⟩
  | @answer turns c r q _ hq hid ih =>
    have hknown : ∀ id, r.id? = some id → 0 < id ∧ id ≤ c.sequence.issued := by
      intro id h
      obtain rfl : q.id = id := Option.some.inj (hid.symm.trans h)
      exact ih.1.mem_ids.mp (List.mem_map_of_mem hq)
    exact ⟨ih.1.outcome (outcome_answer hid) hknown, ih.2.outcome (outcome_answer hid) hknown⟩

/-- A response to a request that was never made, or that is not newer than the stylesheet applied
last, changes nothing but the set that would not be asked for again. -/
theorem respond_of_stray {r : StyleResponse} {id : Nat} (hid : r.id? = some id)
    (hstray : ¬ (0 < id ∧ id ≤ c.sequence.issued) ∨ id ≤ c.sequence.applied) :
    (c.respond r).1 = { c with lastSent := (c.respond r).1.lastSent } ∧
      ∀ text, (c.respond r).2 ≠ .apply text := by
  have ho : Outcome c (.heard r (c.respond r).2) (c.respond r).1 := outcome_answer hid
  generalize c.respond r = done at ho ⊢
  obtain ⟨c', event⟩ := done
  cases ho with
  | opened | flushed => cases hid
  | applied text n hnew hissued =>
    obtain rfl : n = id := Option.some.inj hid
    omega
  | stale | failedLast | failedEarlier => exact ⟨rfl, by simp⟩

/-- **The newest stylesheet wins.** Whatever is asked for and in whatever order the responses come:
the numbers of the stylesheets that are applied grow; the stylesheet that is shown is the one with
the highest number of all that came back; and a response with a number that was not given out, or
that is not above the one applied last, changes nothing but the set that would not be asked for
again. Once the request made last is answered, its stylesheet is shown, or it has failed and its set
is asked for again as soon as a source has it. -/
theorem newest_stylesheet_wins (h : History baseline turns c) :
    (applied turns).Pairwise (· < ·) ∧
      (c.current = none → sheets turns = []) ∧
      (∀ text, c.current = some text →
        ∃ id, (id, text) ∈ sheets turns ∧ ∀ sheet ∈ sheets turns, sheet.1 ≤ id) ∧
      (∀ r id, r.id? = some id →
        id ∉ (made turns).map StyleRequest.id ∨ (∃ i ∈ applied turns, id ≤ i) →
          (c.respond r).1 = { c with lastSent := (c.respond r).1.lastSent } ∧
            ∀ text, (c.respond r).2 ≠ .apply text) ∧
      ∀ q, (made turns).getLast? = some q → q.id ∈ answered turns →
        (∃ text, (q.id, text) ∈ sheets turns ∧ c.current = some text) ∨
          (∃ message event, .heard (.failed message (some q.id)) event ∈ turns) ∧
            (∃ cs ∈ calls turns, c.merged cs = q.candidates) ∧
            ∀ cs, c.merged cs = q.candidates →
              (c.request cs).2 = some ⟨q.candidates, q.id + 1⟩ := by
  obtain ⟨hnumbered, hnewest⟩ := h.inStep
  refine ⟨hnewest.increasing, fun hc => (hnewest.blank hc).1, fun text htext => ?_, ?_, ?_⟩
  · exact ⟨_, hnewest.sheet text htext, hnewest.newest⟩
  · intro r id hid hstray
    refine respond_of_stray hid ?_
    rw [← hnumbered.mem_ids]
    exact hstray.imp_right fun ⟨i, hi, hle⟩ => Nat.le_trans hle (hnewest.le i hi)
  · intro q hq hanswered
    have hmem : q ∈ made turns := List.mem_of_getLast? hq
    have hid : q.id = c.sequence.issued := hnumbered.id_of_last hq
    obtain ⟨t, ht, hanswer⟩ := List.mem_filterMap.mp hanswered
    obtain ⟨r, event, rfl⟩ : ∃ r event, t = .heard r event := by
      cases t with
      | asked => cases hanswer
      | heard r event => exact ⟨r, event, rfl⟩
    cases r with
    | ready => cases hanswer
    | css text n =>
      obtain rfl : n = q.id := Option.some.inj hanswer
      have hsheet : (q.id, text) ∈ sheets turns := List.mem_filterMap.mpr ⟨_, ht, rfl⟩
      cases hcurrent : c.current with
      | none => simp [(hnewest.blank hcurrent).1] at hsheet
      | some shown =>
        have hshown := hnewest.sheet shown hcurrent
        have hle : c.sequence.applied ≤ c.sequence.issued :=
          hnumbered.answered_le _ (mem_answered_of_mem_sheets hshown)
        have hnumber : c.sequence.applied = q.id :=
          Nat.le_antisymm (hid ▸ hle) (hnewest.newest _ hsheet)
        exact .inl ⟨shown, hnumber ▸ hshown, rfl⟩
    | failed message n =>
      obtain rfl : n = some q.id := hanswer
      have hlast : c.lastSent = none := hnumbered.retry message event (hid ▸ ht)
      obtain ⟨hkey, hcalled⟩ := hnumbered.called q hmem
      have hready : c.ready = true :=
        hnumbered.ready (hid ▸ (hnumbered.mem_ids.mp (List.mem_map_of_mem hmem)).1)
      refine .inr ⟨⟨message, event, ht⟩, hcalled, fun cs hcs => ?_⟩
      rw [request_of_ready hnumbered.available hready (hcs ▸ hkey) (by simp [hlast]), issue_eq, hcs,
        hid]

/-- Three sets are asked for, and the responses come from the last one to the first. The last request
has failed, so its set is asked for again. -/
theorem newest_stylesheet_wins_behind_failure :
    ∃ turns c, History ["flex"] turns c ∧
      made turns = [⟨["a", "flex"], 1⟩, ⟨["b", "flex"], 2⟩, ⟨["c", "flex"], 3⟩] ∧
      answered turns = [3, 2, 1] ∧ applied turns = [2] ∧ c.current = some "two" ∧
      (∀ text, (3, text) ∉ sheets turns) ∧
      (c.request ["c"]).2 = some ⟨["c", "flex"], 4⟩ ∧
      ∃ id, (id, "two") ∈ sheets turns ∧ ∀ sheet ∈ sheets turns, sheet.1 ≤ id := by
  obtain ⟨turns, c, h, hmade, hanswered, happlied, hcurrent, hsheets, hmerged⟩ : ∃ turns c,
      History ["flex"] turns c ∧
      made turns = [⟨["a", "flex"], 1⟩, ⟨["b", "flex"], 2⟩, ⟨["c", "flex"], 3⟩] ∧
      answered turns = [3, 2, 1] ∧ applied turns = [2] ∧ c.current = some "two" ∧
      sheets turns = [(2, "two"), (1, "one")] ∧ c.merged ["c"] = ["c", "flex"] :=
    ⟨_, _, ((((((History.start.ask ["a"]).ready.ask ["b"]).ask ["c"]).answer
      (.failed "boom" (some 3)) ⟨["c", "flex"], 3⟩ (by decide) rfl).answer
      (.css "two" 2) ⟨["b", "flex"], 2⟩ (by decide) rfl).answer
      (.css "one" 1) ⟨["a", "flex"], 1⟩ (by decide) rfl), by decide, by decide, by decide,
      by decide, by decide, by decide⟩
  obtain ⟨-, -, hshown, -, hlast⟩ := newest_stylesheet_wins h
  have hnone : ∀ text, (3, text) ∉ sheets turns := by simp [hsheets]
  refine ⟨turns, c, h, hmade, hanswered, happlied, hcurrent, hnone, ?_, hshown "two" hcurrent⟩
  rcases hlast ⟨["c", "flex"], 3⟩ (by simp [hmade]) (by simp [hanswered]) with
    ⟨text, htext, -⟩ | ⟨-, -, hretry⟩
  · exact absurd htext (hnone text)
  · exact hretry ["c"] hmerged

end Style.StyleClient
end LivePreview
