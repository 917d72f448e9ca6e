import LivePreview.Host
/-!
# What reaches a realm

Payloads that are posted before the realm is ready are held back, and a realm that was loaded again
has got none of the earlier ones. The host keeps one payload for each `Slot` and delivers these when
the realm announces itself.

That is enough: a realm that is ready has got, since it announced itself, the payload that was
posted last for each slot (`brought_up_to_date`), whatever happened before and however often it was
loaded. The invariant is `UpToDate`; the host's own memory stands between what was posted and what
was delivered.
-/
namespace LivePreview

/-- The place in which a payload has its effect. A later payload for the same place takes its
effect away. -/
inductive Slot where
  | scheme
  | themeStyles
  | utilityStyles
  | mount
deriving DecidableEq, Repr

def Payload.slot : Payload → Slot
  | .scheme _ => .scheme
  | .themeStyles _ => .themeStyles
  | .utilityStyles _ => .utilityStyles
  | .code _ => .mount
  | .clear => .mount

/-- The last of some payloads for a slot. -/
def Slot.last (slot : Slot) (payloads : List Payload) : Option Payload :=
  (payloads.filter fun p => p.slot = slot).getLast?

/-- What is kept for a slot. -/
def LatestPayloads.kept (l : LatestPayloads) : Slot → Option Payload
  | .scheme => l.scheme.map .scheme
  | .themeStyles => l.themeStyles.map .themeStyles
  | .utilityStyles => l.utilityStyles.map .utilityStyles
  | .mount => l.mount.map mountPayload

/-! ## Slots -/

theorem Slot.last_concat (slot : Slot) (payloads : List Payload) (p : Payload) :
    slot.last (payloads ++ [p]) = if p.slot = slot then some p else slot.last payloads := by
  by_cases h : p.slot = slot <;> simp [Slot.last, List.filter_append, h]

namespace LatestPayloads

variable (l : LatestPayloads)

theorem kept_record (p : Payload) (slot : Slot) :
    (l.record p).kept slot = if p.slot = slot then some p else l.kept slot := by
  cases p <;> cases slot <;> rfl

/-- What is kept for a slot is a payload for that slot. -/
theorem slot_of_kept {slot : Slot} {p : Payload} (h : l.kept slot = some p) : p.slot = slot := by
  cases slot with
  | scheme | themeStyles | utilityStyles =>
    obtain ⟨x, -, rfl⟩ := Option.map_eq_some_iff.mp h
    rfl
  | mount =>
    obtain ⟨m, -, rfl⟩ := Option.map_eq_some_iff.mp h
    cases m <;> rfl

theorem replay_eq :
    l.replay = ([.scheme, .themeStyles, .utilityStyles] : List Slot).flatMap
      (fun slot => (l.kept slot).toList) ++ (l.kept .mount).toList := by
  simp [replay, kept]

theorem filter_kept (slot slot' : Slot) :
    ((l.kept slot').toList.filter fun p => p.slot = slot) =
      if slot' = slot then (l.kept slot).toList else [] := by
  cases h : l.kept slot' with
  | none =>
    split
    · rename_i heq
      rw [← heq, h]
      rfl
    · rfl
  | some p =>
    have hslot := l.slot_of_kept h
    split
    · rename_i heq
      simp [← heq, h, hslot]
    · rename_i hne
      simp [hslot, hne]

/-- A replay holds for each slot what is kept for it. -/
theorem filter_replay (slot : Slot) :
    (l.replay.filter fun p => p.slot = slot) = (l.kept slot).toList := by
  rw [replay_eq]
  cases slot <;> simp [List.filter_append, filter_kept]

theorem last_replay (slot : Slot) : slot.last l.replay = l.kept slot := by
  rw [Slot.last, filter_replay]
  cases l.kept slot <;> rfl

/-- In a replay nothing comes behind the payload for the mount. -/
theorem eq_nil_of_replay {before after : List Payload} {p : Payload}
    (h : l.replay = before ++ p :: after) (hp : p.slot = .mount) : after = [] := by
  have hstyles : ∀ q ∈ ([.scheme, .themeStyles, .utilityStyles] : List Slot).flatMap
      (fun slot => (l.kept slot).toList), q.slot ≠ .mount := by
    intro q hq
    obtain ⟨slot, hslot, hkept⟩ := List.mem_flatMap.mp hq
    rw [l.slot_of_kept (Option.mem_toList.mp hkept)]
    rintro rfl
    simp at hslot
  have hmount : (l.kept .mount).toList.length ≤ 1 := by
    cases l.kept .mount <;> simp
  rw [replay_eq] at h
  rcases List.append_eq_append_iff.mp h with ⟨more, -, hmore⟩ | ⟨more, hstyle, hmore⟩
  · rw [hmore, List.length_append, List.length_cons] at hmount
    exact List.eq_nil_of_length_eq_zero (by omega)
  -- the payload would stand among the styles, or be the one for the mount
  · cases more with
    | nil =>
      rw [List.nil_append] at hmore
      rw [← hmore, List.length_cons] at hmount
      exact List.eq_nil_of_length_eq_zero (by omega)
    | cons q more =>
      obtain ⟨rfl, -⟩ := List.cons.inj hmore
      exact absurd hp (hstyles p (by simp [hstyle]))

end LatestPayloads

namespace Host

/-! ## Histories -/

/-- What may happen to a host. -/
inductive Operation where
  | post (p : Payload)
  | beginCompile
  | compiled (code : String)
  | compileFailed (e : SourceError)
  | clear
  | reload
  | clearConsole
  | receive (r : Report)
deriving DecidableEq

/-- The host behind an operation, and what it delivers to the realm. -/
def perform (h : Host) : Operation → Host × List Payload
  | .post p => h.post p
  | .beginCompile => (h.beginCompile, [])
  | .compiled code => h.compiled code
  | .compileFailed e => (h.compileFailed e, [])
  | .clear => h.clear
  | .reload => (h.reload, [])
  | .clearConsole => (h.clearConsole, [])
  | .receive r => h.receive r

/-- The payload that an operation posts. -/
def Operation.posted? : Operation → Option Payload
  | .post p => some p
  | .compiled code => some (.code code)
  | .clear => some .clear
  | _ => none

/-- An operation that a host has performed, and what it delivered. -/
structure Turn where
  operation : Operation
  delivered : List Payload

/-- The operations that have brought a host from the start to its state. -/
inductive History : List Turn → Host → Prop
  | start (consoleCapacity : Nat) : History [] (Host.start consoleCapacity)
  | perform {turns : List Turn} {h : Host} (o : Operation) : History turns h →
      History (turns ++ [⟨o, (h.perform o).2⟩]) (h.perform o).1

/-- All payloads that were posted. -/
def posted (turns : List Turn) : List Payload := turns.filterMap (·.operation.posted?)

/-- Whether the realm has announced itself, and is not being loaded again. -/
def listening (turns : List Turn) : Bool :=
  turns.foldl (fun ready t =>
    match t.operation with
    | .receive .ready => true
    | .reload => false
    | _ => ready) false

/-- What was delivered since the realm announced itself last. -/
def sinceReady (turns : List Turn) : List Payload :=
  turns.foldl (fun batch t =>
    if t.operation = .receive .ready then t.delivered else batch ++ t.delivered) []

/-- What an operation does to what the host keeps and delivers. -/
inductive Outcome (h : Host) : Operation → Host → List Payload → Prop
  | posted (o : Operation) (h' : Host) (p : Payload) : o.posted? = some p →
      h'.latest = h.latest.record p → h'.realmReady = h.realmReady →
      Outcome h o h' (if h.realmReady then [p] else [])
  /-- The realm announces itself. -/
  | ready (h' : Host) : h'.latest = h.latest → h'.realmReady = true →
      Outcome h (.receive .ready) h' h.latest.replay
  | reload (h' : Host) : h'.latest = h.latest → h'.realmReady = false → Outcome h .reload h' []
  | aside (o : Operation) (h' : Host) : o.posted? = none → o ≠ .receive .ready → o ≠ .reload →
      h'.latest = h.latest → h'.realmReady = h.realmReady → Outcome h o h' []

/-- **What an operation can come to.** -/
theorem outcome (h : Host) (o : Operation) : Outcome h o (h.perform o).1 (h.perform o).2 := by
  cases o with
  | post p => exact .posted _ _ p rfl rfl rfl
  | compiled code => exact .posted _ _ (.code code) rfl rfl rfl
  | clear => exact .posted _ _ .clear rfl rfl rfl
  | reload => exact .reload _ rfl rfl
  | beginCompile | compileFailed | clearConsole =>
    exact .aside _ _ rfl (by simp) (by simp) rfl rfl
  | receive r =>
    cases r with
    | ready => exact .ready _ rfl rfl
    | rendered | failed | logged => exact .aside _ _ rfl (by simp) (by simp) rfl rfl

/-! ## The invariant -/

@[simp] theorem posted_concat (turns : List Turn) (t : Turn) :
    posted (turns ++ [t]) = posted turns ++ t.operation.posted?.toList := by
  simp [posted, List.filterMap_cons]
  cases t.operation.posted? <;> rfl

@[simp] theorem sinceReady_concat (turns : List Turn) (t : Turn) :
    sinceReady (turns ++ [t]) =
      if t.operation = .receive .ready then t.delivered else sinceReady turns ++ t.delivered := by
  simp [sinceReady]

@[simp] theorem listening_concat (turns : List Turn) (t : Turn) :
    listening (turns ++ [t]) =
      (match t.operation with
        | .receive .ready => true
        | .reload => false
        | _ => listening turns) := by
  simp [listening]

/-- How a host's memory stands between what was posted and what was delivered. -/
structure UpToDate (turns : List Turn) (h : Host) : Prop where
  ready : h.realmReady = listening turns
  kept : ∀ slot : Slot, h.latest.kept slot = slot.last (posted turns)
  delivered : h.realmReady = true →
    ∀ slot : Slot, slot.last (sinceReady turns) = h.latest.kept slot

variable {turns : List Turn} {h h' : Host} {o : Operation} {delivered : List Payload}

theorem upToDate_start (consoleCapacity : Nat) : UpToDate [] (Host.start consoleCapacity) where
  ready := rfl
  kept slot := by cases slot <;> rfl
  delivered := by simp [Host.start]

theorem Operation.not_ready_of_posted {p : Payload} (ho : o.posted? = some p) :
    o ≠ .receive .ready ∧ o ≠ .reload := by
  constructor <;>
    · rintro rfl
      cases ho

/-- An operation by which the realm neither comes nor goes leaves it listening or not. -/
theorem listening_concat_of_ne (hready : o ≠ .receive .ready) (hreload : o ≠ .reload) :
    listening (turns ++ [⟨o, delivered⟩]) = listening turns := by
  rw [listening_concat]
  split
  · rename_i heq
    exact absurd heq hready
  · rename_i heq
    exact absurd heq hreload
  · rfl

/-- **An operation keeps the realm up to date.** -/
theorem UpToDate.concat (hu : UpToDate turns h) (ho : Outcome h o h' delivered) :
    UpToDate (turns ++ [⟨o, delivered⟩]) h' := by
  cases ho with
  -- what is posted is kept for its slot, and a realm that is ready gets it at once
  | posted o h' p hp hlatest hready =>
    obtain ⟨hne, hne'⟩ := Operation.not_ready_of_posted hp
    exact {
      ready := by rw [hready, listening_concat_of_ne hne hne', hu.ready]
      kept := fun slot => by
        simp [hlatest, LatestPayloads.kept_record, hp, Slot.last_concat, hu.kept slot]
      delivered := fun hr slot => by
        rw [hready] at hr
        simp [hlatest, LatestPayloads.kept_record, hne, Slot.last_concat, hr,
          hu.delivered hr slot] }
  | ready h' hlatest hready =>
    exact {
      ready := by simp [hready]
      kept := fun slot => by simp [hlatest, hu.kept slot, Operation.posted?]
      delivered := fun _ slot => by simp [hlatest, LatestPayloads.last_replay] }
  | reload h' hlatest hready =>
    exact {
      ready := by simp [hready]
      kept := fun slot => by simp [hlatest, hu.kept slot, Operation.posted?]
      delivered := fun hr => by simp [hready] at hr }
  | aside o h' hp hne hne' hlatest hready =>
    exact {
      ready := by rw [hready, listening_concat_of_ne hne hne', hu.ready]
      kept := fun slot => by simp [hlatest, hu.kept slot, hp]
      delivered := fun hr slot => by
        rw [hready] at hr
        simp [hlatest, hne, hu.delivered hr slot] }

theorem History.upToDate (hist : History turns h) : UpToDate turns h := by
  induction hist with
  | start consoleCapacity => exact upToDate_start consoleCapacity
  | perform o hist ih => exact ih.concat (outcome _ o)

/-- Nothing is delivered by an operation behind which the realm is not ready. -/
theorem Outcome.delivered_of_not_ready (ho : Outcome h o h' delivered)
    (hr : h'.realmReady = false) : delivered = [] := by
  cases ho with
  | posted o h' p hp hlatest hready => simp [← hready, hr]
  | ready h' hlatest hready => simp [hready] at hr
  | reload | aside => rfl

/-- **A realm that is ready is up to date.** The host takes a realm for ready from its announcement
until it is loaded again, and delivers nothing in between. A realm that is ready has got for each
slot, since its announcement, the payload that was posted last. What it gets for its announcement is
at most one payload for each slot, the one for the mount behind the others. -/
theorem brought_up_to_date (hist : History turns h) :
    h.realmReady = listening turns ∧
      (∀ o, (h.perform o).1.realmReady = false → (h.perform o).2 = []) ∧
      (h.realmReady = true →
        ∀ slot : Slot, slot.last (sinceReady turns) = slot.last (posted turns)) ∧
      (∀ slot : Slot, ((h.receive .ready).2.filter fun p => p.slot = slot).length ≤ 1) ∧
      ∀ before p after, (h.receive .ready).2 = before ++ p :: after → p.slot = .mount →
        after = [] := by
  have hu := hist.upToDate
  refine ⟨hu.ready, fun o hr => (outcome h o).delivered_of_not_ready hr, ?_, ?_, ?_⟩
  · intro hr slot
    rw [hu.delivered hr slot, hu.kept slot]
  · intro slot
    rw [receive, LatestPayloads.filter_replay]
    cases h.latest.kept slot <;> simp
  · intro before p after heq hp
    exact h.latest.eq_nil_of_replay heq hp

/-- The realm is loaded again, and while it is away the module is removed and styles come in. -/
theorem brought_up_to_date_behind_reload :
    ∃ turns h, History turns h ∧
      turns.map (·.operation) =
        [.post (.scheme .dark), .receive .ready, .compiled "a", .reload, .clear,
          .post (.utilityStyles ".p-4{}"), .receive .ready, .receive .rendered] ∧
      h.realmReady = true ∧
      sinceReady turns = [.scheme .dark, .utilityStyles ".p-4{}", .clear] ∧
      ∀ slot : Slot, slot.last (sinceReady turns) = slot.last (posted turns) := by
  obtain ⟨turns, h, hist, hoperations, hready, hsince⟩ : ∃ turns h, History turns h ∧
      turns.map (·.operation) =
        [.post (.scheme .dark), .receive .ready, .compiled "a", .reload, .clear,
          .post (.utilityStyles ".p-4{}"), .receive .ready, .receive .rendered] ∧
      h.realmReady = true ∧
      sinceReady turns = [.scheme .dark, .utilityStyles ".p-4{}", .clear] :=
    ⟨_, _, .perform (.receive .rendered) (.perform (.receive .ready)
      (.perform (.post (.utilityStyles ".p-4{}")) (.perform .clear (.perform .reload
        (.perform (.compiled "a") (.perform (.receive .ready)
          (.perform (.post (.scheme .dark)) (.start 10)))))))), rfl, rfl, rfl⟩
  exact ⟨turns, h, hist, hoperations, hready, hsince,
    (brought_up_to_date hist).2.2.1 hready⟩

end Host

end LivePreview
