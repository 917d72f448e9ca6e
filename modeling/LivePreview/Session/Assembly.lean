import LivePreview.Session.Router
/-!
# A whole session

All parts of a session together, run by the clock. Nothing but waiting takes time, so after each
input the parts exchange messages until none is left. An exchange goes in rounds: the router handles
the messages of a round, the realm the payloads that come of it, and the worker the requests; what
they say are the messages of the next round.
-/

namespace LivePreview.Session

/-- What a session runs in. -/
structure World where
  /-- Loads a module, when a number of modules were loaded before. -/
  load : Nat → String → Except PreviewError Realm.LoadedModule
  /-- The failure of a component, if it fails. -/
  render : Realm.MountRequest → Option Failure

/-- The parts of a session. -/
structure Assembly where
  schedule : Coordinator.Schedule
  world : World
  coordinator : Coordinator
  router : Router
  worker : Style.Worker
  realm : Realm
  /-- How many modules were loaded. -/
  loaded : Nat
  now : Nat

namespace Assembly

/-- What an exchange leads to: what the realm did, and the messages of the next round. -/
structure Exchange where
  assembly : Assembly
  effects : List Realm.Effect
  messages : List Message

/-- How many modules the effects load. -/
def loads (effects : List Realm.Effect) : Nat :=
  effects.countP fun
    | .load _ => true
    | _ => false

/-- The realm handles an input. -/
def feedRealm (a : Assembly) (input : Realm.Input) : Exchange :=
  let (realm, effects) := a.realm.handle ⟨a.world.load a.loaded, a.world.render⟩ input
  { assembly := { a with realm := realm, loaded := a.loaded + loads effects }
    effects := effects
    messages := (Realm.reports effects).map .report }

/-- The worker answers a request. -/
def askWorker (a : Assembly) (request : StyleRequest) : Exchange :=
  let (worker, response) := a.worker.answer request
  { assembly := { a with worker := worker }, effects := [], messages := [.style response] }

/-- Does one thing after another. -/
def inTurn {α : Type} (step : Assembly → α → Exchange) : Assembly → List α → Exchange
  | a, [] => ⟨a, [], []⟩
  | a, x :: r =>
    let first := step a x
    let rest := inTurn step first.assembly r
    ⟨rest.assembly, first.effects ++ rest.effects, first.messages ++ rest.messages⟩

/-- The router handles a message, the realm the payloads and the worker the requests. -/
def handle (a : Assembly) (m : Message) : Exchange :=
  let (router, sent) := a.router.handle m
  let asked := inTurn askWorker { a with router := router } sent.requests
  let shown := inTurn (fun a p => a.feedRealm (.payload p)) asked.assembly sent.payloads
  ⟨shown.assembly, shown.effects, shown.messages ++ asked.messages⟩

/-- Exchanges messages for a number of rounds. -/
def rounds : Nat → Assembly → List Message → Assembly × List Realm.Effect
  | 0, a, _ => (a, [])
  | n + 1, a, messages =>
    let done := inTurn handle a messages
    let (a, effects) := rounds n done.assembly done.messages
    (a, done.effects ++ effects)

/-- Exchanges messages until none is left (`rounds_eq_settle`). -/
def settle (a : Assembly) (messages : List Message) : Assembly × List Realm.Effect :=
  rounds 4 a messages

/-- Handles the events of the coordinator. -/
def onEvents (a : Assembly) (events : List Coordinator.TimedEvent) : Assembly × List Realm.Effect :=
  a.settle (events.map fun e => .edit e.2)

/-- Edits the source. -/
def edit (a : Assembly) (source : String) : Assembly × List Realm.Effect :=
  let (coordinator, events) := a.coordinator.editAt a.schedule a.now source
  onEvents { a with coordinator := coordinator } events

/-- Lets time pass. -/
def wait (a : Assembly) (time : Nat) : Assembly × List Realm.Effect :=
  let now := a.now + time
  let (coordinator, events) := a.coordinator.advance a.schedule a.now now
  onEvents { a with coordinator := coordinator, now := now } events

/-- Something happens in the realm itself. -/
def inRealm (a : Assembly) (input : Realm.Input) : Assembly × List Realm.Effect :=
  let fed := a.feedRealm input
  let (a, effects) := fed.assembly.settle fed.messages
  (a, fed.effects ++ effects)

/-- Starts a session: the worker loads its compiler, and the realm announces itself unless that is
held back. -/
def start (o : Options) (schedule : Coordinator.Schedule) (world : World)
    (compiler : Style.Outcome Style.Build) (holdReady : Bool) : Assembly × List Realm.Effect :=
  let (worker, response) := Style.Worker.start.load compiler
  let a : Assembly :=
    { schedule := schedule
      world := world
      coordinator := Coordinator.start
      router := Router.start o
      worker := worker
      realm := Realm.start
      loaded := 0
      now := 0 }
  a.settle (.style response :: if holdReady then [] else [.report .ready])

end Assembly

/-! ## The end of an exchange

A message may lead to a request, the response to a payload, and what the realm reports on a payload
leads to nothing.
-/

/-- In how many rounds everything is over that a message leads to. -/
def Message.reach : Message → Nat
  | .edit _ => 3
  | .style .ready => 3
  | .style _ => 2
  | .report .ready => 2
  | .report _ => 1
  | .command _ => 2

theorem Message.reach_bounds (m : Message) : 0 < m.reach ∧ m.reach ≤ 3 := by
  unfold reach
  split <;> decide

namespace Assembly

variable {a : Assembly} {m m' : Message} {messages : List Message} {n : Nat}

/-- A report leads to payloads only if it says that the realm is ready. -/
theorem one_lt_reach {r : Router} {p : Payload} (h : p ∈ (r.handle m).2.payloads) :
    1 < m.reach := by
  cases m with
  | edit | command => simp [Message.reach]
  | style response => cases response <;> simp [Message.reach]
  | report r =>
    cases r with
    | ready => decide
    | rendered | failed | logged => cases h

/-- Requests come of the source and of a worker that is ready. -/
theorem two_lt_reach {r : Router} {q : StyleRequest} (h : q ∈ (r.handle m).2.requests) :
    2 < m.reach := by
  cases m with
  | edit => simp [Message.reach]
  | style response =>
    cases response with
    | ready => simp [Message.reach]
    | css text id =>
      have hnone : (r.handle (.style (.css text id))).2.requests = [] := by
        simp only [Router.handle, Router.onStyle, Style.StyleClient.respond]
        cases r.styles.sequence.accept? id <;> rfl
      rw [hnone] at h
      cases h
    | failed message id => cases id <;> cases h
  | report r => cases r <;> cases h
  | command c => cases c <;> cases h

theorem reach_of_mem_feedRealm {input : Realm.Input} (h : m ∈ (a.feedRealm input).messages) :
    m.reach = 1 := by
  obtain ⟨r, hr, rfl⟩ := List.mem_map.mp h
  obtain ⟨e, he, her⟩ := List.mem_filterMap.mp hr
  cases e with
  | report r' =>
    obtain rfl := Option.some.inj her
    cases r' with
    | ready => exact absurd he Realm.ready_not_mem_handle
    | rendered | failed | logged => rfl
  | _ => cases her

theorem reach_of_mem_askWorker {request : StyleRequest}
    (h : m ∈ (a.askWorker request).messages) : m.reach = 2 := by
  have hm : m = .style (a.worker.answer request).2 := List.mem_singleton.mp h
  rw [hm]
  cases hresponse : (a.worker.answer request).2 with
  | ready => exact absurd hresponse (a.worker.answer_ne_ready request)
  | css | failed => rfl

/-- What is said while things are done in turn is said while one of them is done. -/
theorem mem_inTurn {α : Type} {step : Assembly → α → Exchange} {xs : List α}
    (h : m ∈ (inTurn step a xs).messages) : ∃ b, ∃ x ∈ xs, m ∈ (step b x).messages := by
  induction xs generalizing a with
  | nil => cases h
  | cons x r ih =>
    rcases List.mem_append.mp h with h | h
    · exact ⟨a, x, .head _, h⟩
    · obtain ⟨b, y, hy, h⟩ := ih h
      exact ⟨b, y, .tail _ hy, h⟩

/-- What a message leads to is over sooner. -/
theorem reach_lt_of_mem_handle (h : m' ∈ (a.handle m).messages) : m'.reach < m.reach := by
  rcases List.mem_append.mp h with h | h
  · obtain ⟨b, p, hp, h⟩ := mem_inTurn h
    exact reach_of_mem_feedRealm h ▸ one_lt_reach hp
  · obtain ⟨b, q, hq, h⟩ := mem_inTurn h
    exact reach_of_mem_askWorker h ▸ two_lt_reach hq

theorem rounds_nil (n : Nat) : rounds n a [] = (a, []) := by
  induction n with
  | zero => rfl
  | succ n ih => simp [rounds, inTurn, ih]

/-- Messages are over within a number of rounds if each of them is. -/
theorem rounds_add (k : Nat) (h : ∀ m ∈ messages, m.reach ≤ n) :
    rounds (n + k) a messages = rounds n a messages := by
  induction n generalizing a messages with
  | zero =>
    have hnone : messages = [] := List.eq_nil_iff_forall_not_mem.mpr fun m hm =>
      absurd (h m hm) (by have := m.reach_bounds; omega)
    rw [hnone, rounds_nil, rounds_nil]
  | succ n ih =>
    have hnext : ∀ m' ∈ (inTurn handle a messages).messages, m'.reach ≤ n := by
      intro m' hm'
      obtain ⟨b, m, hm, hlt⟩ := mem_inTurn hm'
      have := reach_lt_of_mem_handle hlt
      have := h m hm
      omega
    rw [Nat.add_right_comm]
    simp only [rounds, ih hnext]

/-- **An exchange ends.** Behind three rounds no message is left, so that more of them are of no
effect. -/
theorem rounds_eq_settle (h : 3 ≤ n) : rounds n a messages = a.settle messages := by
  have hreach : ∀ m ∈ messages, m.reach ≤ 3 := fun m _ => m.reach_bounds.2
  obtain ⟨k, rfl⟩ := Nat.exists_eq_add_of_le h
  rw [rounds_add k hreach]
  exact (rounds_add 1 hreach).symm

end Assembly

end LivePreview.Session
