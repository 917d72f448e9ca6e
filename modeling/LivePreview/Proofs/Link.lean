import LivePreview.Proofs.RealmHistory
/-!
# A host and its realm

A host and a realm are joined by two queues, one for payloads and one for reports. Either side may
move at any time: the host by an operation of its own or by the report in front of its queue, the
realm by the payload in front of its queue or by a line for the console. What the loader and the
renderer answer is left open at every step.

A report does not name the module that it is about. So that it can be said here, every payload
carries the number of mounts (modules and removals) posted up to it, and every report the number of
the payload that it answers; neither side reads these numbers. The invariant (`Link.Consistent`)
follows the last mount on its way: to the realm, as a report back, and to the host.

Reports on earlier modules are not told apart from the one on the last mount. The status at rest is
that of the last mount, spoiled by every report that came late (`Link.status_at_rest`).
-/
namespace LivePreview

/-- Whether a payload is for the mount. -/
def Payload.isMount : Payload → Bool
  | .code _ => true
  | .clear => true
  | .themeStyles _ => false
  | .utilityStyles _ => false
  | .scheme _ => false

/-- Whether a report is on a module that failed. -/
def Report.isFailure : Report → Bool
  | .failed _ => true
  | .rendered => false
  | .ready => false
  | .logged _ _ => false

/-- A host and a realm with what is on its way between them, and what has come to pass. -/
structure Link where
  host : Host
  realm : Realm
  toRealm : List (Nat × Payload)
  toHost : List (Nat × Report)
  /-- The mounts that the host has posted. -/
  mounts : List Mount
  /-- What the realm has reported on the last of them. -/
  answer : Option Report
  /-- The outcomes that the host has heard since it posted the last of them. -/
  heard : List (Nat × Report)

namespace Link

/-- At the start only the realm's announcement is on its way. -/
def start (consoleCapacity : Nat) : Link :=
  { host := Host.start consoleCapacity
    realm := Realm.start
    toRealm := []
    toHost := (Realm.reports Realm.announcement).map (0, ·)
    mounts := []
    answer := none
    heard := [] }

/-- The host has taken a step, and what it delivers is on its way. -/
def deliver (l : Link) (moved : Host × List Payload) : Link :=
  { l with
    host := moved.1
    toRealm := l.toRealm ++ moved.2.map (l.mounts.length, ·) }

/-- The host posts a mount. -/
def mount (l : Link) (m : Mount) (moved : Host × List Payload) : Link :=
  { l with mounts := l.mounts ++ [m], answer := none, heard := [] }.deliver moved

/-- The realm has taken a step for the payload of a number, and its reports are on their way. -/
def act (l : Link) (k : Nat) (moved : Realm × List Realm.Effect) : Link :=
  { l with
    realm := moved.1
    toHost := l.toHost ++ (Realm.reports moved.2).map (k, ·)
    answer :=
      if k = l.mounts.length then ((Realm.reports moved.2).find? Report.isOutcome).or l.answer
      else l.answer }

/-- The host takes the report in front of its queue. -/
def hear (l : Link) (x : Nat × Report) (rest : List (Nat × Report)) : Link :=
  { l with
    toHost := rest
    heard := if x.2.isOutcome then l.heard ++ [x] else l.heard }.deliver (l.host.receive x.2)

/-- One step of either side. -/
inductive Step (l : Link) : Link → Prop
  | beginCompile : Step l { l with host := l.host.beginCompile }
  | compileFailed (e : SourceError) : Step l { l with host := l.host.compileFailed e }
  | compiled (code : String) : Step l (l.mount (.code code) (l.host.compiled code))
  | clear : Step l (l.mount .clear l.host.clear)
  /-- A payload that is not for the mount is posted. -/
  | post (p : Payload) : p.isMount = false → Step l (l.deliver (l.host.post p))
  | run (s : Realm.Surroundings) (k : Nat) (p : Payload) (rest : List (Nat × Payload)) :
      l.toRealm = (k, p) :: rest →
      Step l ({ l with toRealm := rest }.act k (l.realm.handle s (.payload p)))
  | console (s : Realm.Surroundings) (method : ConsoleMethod) (args : List ConsoleArgument) :
      Step l (l.act l.mounts.length (l.realm.handle s (.console method args)))
  | hear (x : Nat × Report) (rest : List (Nat × Report)) :
      l.toHost = x :: rest → Step l (l.hear x rest)

/-- The states that are reached from the start. -/
inductive Reachable : Link → Prop
  | start (consoleCapacity : Nat) : Reachable (start consoleCapacity)
  | step {l l' : Link} : Reachable l → Step l l' → Reachable l'

/-- Nothing is on its way, no transformation is under way, and the last one did not fail. -/
structure AtRest (l : Link) : Prop where
  ready : l.host.realmReady = true
  toRealm : l.toRealm = []
  toHost : l.toHost = []
  compiling : l.host.compiling = false
  compileError : l.host.compileError = none

/-- The status that the last mount calls for: that of the realm's report on it if it is a module. -/
def due (l : Link) : Status :=
  match l.mounts.getLast?, l.answer with
  | some (.code _), some (.failed _) => .error
  | some (.code _), some _ => .ready
  | some (.code _), none => .compiling
  | _, _ => .idle

/-- The reports on earlier modules that the host has heard since it posted the last mount. -/
def late (l : Link) : List Report :=
  (l.heard.filter fun x => x.1 < l.mounts.length).map (·.2)

/-- The status at rest if the last mount calls for a status and some reports came late. -/
def settled (due : Status) (late : List Report) : Status :=
  if due = .error ∨ late.any Report.isFailure then .error
  else if due = .ready ∨ late ≠ [] then .ready
  else .idle

variable {l l' : Link}

/-! ## The invariant -/

/-- The last mount is a module that the realm has not reported on. -/
def Awaited (l : Link) : Prop := ∃ text, (l.mounts.length, Payload.code text) ∈ l.toRealm

/-- What holds in every state that is reached. -/
structure Consistent (l : Link) : Prop where
  /-- The host keeps the last mount. -/
  latest : l.host.latest.mount = l.mounts.getLast?
  /-- The realm announces itself once, and gets nothing before that is heard. -/
  announced : (l.toHost.map (·.2)).count .ready = if l.host.realmReady then 0 else 1
  unready : l.host.realmReady = false → l.toRealm = [] ∧ l.answer = none
  /-- No number is greater than that of the last mount. -/
  toRealm_le : ∀ x ∈ l.toRealm, x.1 ≤ l.mounts.length
  toHost_le : ∀ x ∈ l.toHost, x.1 ≤ l.mounts.length
  heard_le : ∀ x ∈ l.heard, x.1 ≤ l.mounts.length
  heard_outcome : ∀ x ∈ l.heard, x.2.isOutcome = true
  /-- The mounts on their way to the realm are in the order of their numbers. -/
  sorted : (l.toRealm.filter (·.2.isMount)).Pairwise (·.1 < ·.1)
  /-- A mount with the last number is the last mount, and was not reported on. -/
  last : ∀ x ∈ l.toRealm, x.2.isMount = true → x.1 = l.mounts.length →
    l.mounts.getLast?.map LatestPayloads.mountPayload = some x.2 ∧ l.answer = none
  /-- A report with the last number is the one on the last mount. -/
  toHost_answer : ∀ x ∈ l.toHost, x.2.isOutcome = true → x.1 = l.mounts.length →
    l.answer = some x.2
  heard_answer : ∀ x ∈ l.heard, x.1 = l.mounts.length → l.answer = some x.2
  /-- Only a module is reported on. -/
  answer_code : ∀ o, l.answer = some o → ∃ text, l.mounts.getLast? = some (.code text)
  /-- If the last mount is a module, it is on its way to the realm, or the report on it is on its
  way to the host, or the host has heard that. -/
  underway : l.host.realmReady = true → ∀ text, l.mounts.getLast? = some (.code text) →
    Awaited l ∨ ∃ o, o.isOutcome = true ∧ l.answer = some o ∧
      ((l.mounts.length, o) ∈ l.toHost ∨ (l.mounts.length, o) ∈ l.heard)
  /-- The host waits for nothing but the report on the last mount. -/
  awaiting : l.host.realmReady = true → l.host.awaitingRender = true →
    Awaited l ∨ ∃ x ∈ l.toHost, x.2.isOutcome = true
  /-- The failure is one that was heard since the last mount was posted. -/
  failure : l.host.failure.isSome = true ↔ ∃ x ∈ l.heard, ∃ f, x.2 = .failed f
  rendered : ∀ x ∈ l.heard, x.2 = .rendered → l.host.rendered = true
  /-- Without a module the host has rendered what it heard of since. -/
  rendered_late : l.host.rendered = true → (∀ text, l.mounts.getLast? ≠ some (.code text)) →
    ∃ x ∈ l.heard, x.2 = .rendered

theorem consistent_start (consoleCapacity : Nat) : Consistent (start consoleCapacity) := by
  constructor <;>
    simp [start, Host.start, LatestPayloads.empty, Realm.announcement, Report.isOutcome]

/-- A step of the host alone that touches nothing of its state that counts here. -/
theorem Consistent.of_host (hc : Consistent l) {h : Host}
    (hready : h.realmReady = l.host.realmReady) (hlatest : h.latest = l.host.latest)
    (hawaiting : h.awaitingRender = l.host.awaitingRender) (hfailure : h.failure = l.host.failure)
    (hrendered : h.rendered = l.host.rendered) : Consistent { l with host := h } where
  latest := by rw [← hc.latest, ← hlatest]
  announced := by rw [hc.announced, ← hready]
  unready := by simpa only [hready] using hc.unready
  toRealm_le := hc.toRealm_le
  toHost_le := hc.toHost_le
  heard_le := hc.heard_le
  heard_outcome := hc.heard_outcome
  sorted := hc.sorted
  last := hc.last
  toHost_answer := hc.toHost_answer
  heard_answer := hc.heard_answer
  answer_code := hc.answer_code
  underway := by simpa only [hready, Awaited] using hc.underway
  awaiting := by simpa only [hready, hawaiting, Awaited] using hc.awaiting
  failure := by simpa only [hfailure] using hc.failure
  rendered := by simpa only [hrendered] using hc.rendered
  rendered_late := by simpa only [hrendered] using hc.rendered_late

theorem isMount_mountPayload (m : Mount) : (LatestPayloads.mountPayload m).isMount = true := by
  cases m <;> rfl

/-- Posting a mount: all that was under way has a smaller number now. -/
theorem Consistent.mount (hc : Consistent l) {m : Mount} {moved : Host × List Payload}
    (hready : moved.1.realmReady = l.host.realmReady) (hlatest : moved.1.latest.mount = some m)
    (hsent : moved.2 = if l.host.realmReady then [LatestPayloads.mountPayload m] else [])
    (hawaiting : moved.1.awaitingRender = true → ∃ text, m = .code text)
    (hfailure : moved.1.failure = none)
    (hrendered : moved.1.rendered = true → ∃ text, m = .code text) :
    Consistent (l.mount m moved) := by
  have hold : ∀ x ∈ l.toRealm, x.1 < l.mounts.length + 1 :=
    fun x hx => Nat.lt_succ_of_le (hc.toRealm_le x hx)
  have hsent_mem : ∀ x ∈ moved.2.map (l.mounts.length + 1, ·),
      x = (l.mounts.length + 1, LatestPayloads.mountPayload m) := by
    intro x hx
    rw [hsent] at hx
    split at hx <;> simp_all
  have hnew : l.host.realmReady = true →
      (l.mounts.length + 1, LatestPayloads.mountPayload m) ∈
        l.toRealm ++ moved.2.map (l.mounts.length + 1, ·) := by
    intro hr
    simp [hsent, hr]
  constructor <;>
    simp only [Link.mount, Link.deliver, List.length_append, List.length_singleton,
      List.getLast?_concat, hready, hlatest]
  case announced => exact hc.announced
  case unready =>
    intro hr
    exact ⟨by simp [(hc.unready hr).1, hsent, hr], trivial⟩
  case toRealm_le =>
    intro x hx
    rcases List.mem_append.mp hx with hx | hx
    · exact Nat.le_of_lt (hold x hx)
    · exact Nat.le_of_eq (congrArg Prod.fst (hsent_mem x hx))
  case toHost_le => exact fun x hx => Nat.le_succ_of_le (hc.toHost_le x hx)
  case heard_le | heard_outcome | heard_answer | answer_code | rendered => simp
  case sorted =>
    rw [List.filter_append, List.pairwise_append]
    refine ⟨hc.sorted, ?_, ?_⟩
    · rw [hsent]
      split <;> simp [isMount_mountPayload]
    · intro x hx y hy
      rw [hsent_mem y (List.mem_filter.mp hy).1]
      exact hold x (List.mem_filter.mp hx).1
  case last =>
    intro x hx _ hn
    rcases List.mem_append.mp hx with hx | hx
    · exact absurd hn (Nat.ne_of_lt (hold x hx))
    · simp [hsent_mem x hx]
  case toHost_answer =>
    intro x hx _ hn
    exact absurd hn (Nat.ne_of_lt (Nat.lt_succ_of_le (hc.toHost_le x hx)))
  case underway =>
    rintro hr text ⟨rfl⟩
    exact Or.inl ⟨text, by simpa [LatestPayloads.mountPayload] using hnew hr⟩
  case awaiting =>
    intro hr ha
    obtain ⟨text, rfl⟩ := hawaiting ha
    exact Or.inl ⟨text, by simpa [LatestPayloads.mountPayload] using hnew hr⟩
  case failure => simp [hfailure]
  case rendered_late =>
    intro hr hm
    obtain ⟨text, rfl⟩ := hrendered hr
    exact absurd rfl (hm text)

/-- Posting any other payload: it can only come in behind what is on its way. -/
theorem Consistent.post (hc : Consistent l) {p : Payload} (hp : p.isMount = false) :
    Consistent (l.deliver (l.host.post p)) := by
  have hmount : (l.host.latest.record p).mount = l.host.latest.mount := by
    cases p with
    | code | clear => simp [Payload.isMount] at hp
    | themeStyles | utilityStyles | scheme => rfl
  have hsent : ∀ x ∈ (l.host.post p).2.map (l.mounts.length, ·), x = (l.mounts.length, p) := by
    intro x hx
    simp only [Host.post] at hx
    split at hx <;> simp_all
  have hawaited : ∀ text, (l.mounts.length, Payload.code text) ∈ l.toRealm →
      (l.mounts.length, Payload.code text) ∈
        l.toRealm ++ (l.host.post p).2.map (l.mounts.length, ·) :=
    fun text ht => List.mem_append_left _ ht
  have hmounts : ∀ x ∈ l.toRealm ++ (l.host.post p).2.map (l.mounts.length, ·),
      x.2.isMount = true → x ∈ l.toRealm := by
    intro x hx hm
    rcases List.mem_append.mp hx with hx | hx
    · exact hx
    · rw [hsent x hx, hp] at hm
      exact absurd hm Bool.false_ne_true
  exact {
    hc with
    latest := hmount.trans hc.latest
    unready := by
      intro (hr : l.host.realmReady = false)
      exact ⟨by simp [Link.deliver, Host.post, (hc.unready hr).1, hr], (hc.unready hr).2⟩
    toRealm_le := by
      intro x hx
      rcases List.mem_append.mp hx with hx | hx
      · exact hc.toRealm_le x hx
      · exact Nat.le_of_eq (congrArg Prod.fst (hsent x hx))
    sorted := by
      have hnone : ((l.host.post p).2.map (l.mounts.length, ·)).filter (·.2.isMount) = [] := by
        rw [List.filter_eq_nil_iff]
        intro x hx
        simp [hsent x hx, hp]
      simpa [Link.deliver, List.filter_append, hnone] using hc.sorted
    last := fun x hx hm hn => hc.last x (hmounts x hx hm) hm hn
    underway := fun hr text ht =>
      (hc.underway hr text ht).imp_left fun ⟨text, h⟩ => ⟨text, hawaited text h⟩
    awaiting := fun hr ha =>
      (hc.awaiting hr ha).imp_left fun ⟨text, h⟩ => ⟨text, hawaited text h⟩ }

/-! ### Steps of the realm -/

/-- A step of the realm that says nothing of any module. -/
theorem Consistent.quiet (hc : Consistent l) {r : Realm} {rest : List (Nat × Payload)}
    {added : List (Nat × Report)} (hrest : rest.Sublist l.toRealm)
    (hcode : ∀ text, (l.mounts.length, Payload.code text) ∈ l.toRealm →
      (l.mounts.length, Payload.code text) ∈ rest)
    (hadded : ∀ x ∈ added, x.1 ≤ l.mounts.length ∧ x.2.isOutcome = false ∧ x.2 ≠ .ready) :
    Consistent { l with realm := r, toRealm := rest, toHost := l.toHost ++ added } where
  latest := hc.latest
  announced := by
    have hnone : (added.map (·.2)).count .ready = 0 := by
      rw [List.count_eq_zero]
      intro hm
      obtain ⟨x, hx, hr⟩ := List.mem_map.mp hm
      exact (hadded x hx).2.2 hr
    simpa [List.count_append, hnone] using hc.announced
  unready hr := ⟨List.sublist_nil.mp ((hc.unready hr).1 ▸ hrest), (hc.unready hr).2⟩
  toRealm_le x hx := hc.toRealm_le x (hrest.subset hx)
  toHost_le x hx := by
    rcases List.mem_append.mp hx with hx | hx
    · exact hc.toHost_le x hx
    · exact (hadded x hx).1
  heard_le := hc.heard_le
  heard_outcome := hc.heard_outcome
  sorted := hc.sorted.sublist (hrest.filter _)
  last x hx := hc.last x (hrest.subset hx)
  toHost_answer x hx ho hn := by
    rcases List.mem_append.mp hx with hx | hx
    · exact hc.toHost_answer x hx ho hn
    · rw [(hadded x hx).2.1] at ho
      exact absurd ho Bool.false_ne_true
  heard_answer := hc.heard_answer
  answer_code := hc.answer_code
  underway hr text ht := by
    rcases hc.underway hr text ht with ⟨text, h⟩ | ⟨o, ho, ha, h | h⟩
    · exact Or.inl ⟨text, hcode text h⟩
    · exact Or.inr ⟨o, ho, ha, Or.inl (List.mem_append_left _ h)⟩
    · exact Or.inr ⟨o, ho, ha, Or.inr h⟩
  awaiting hr ha := by
    rcases hc.awaiting hr ha with ⟨text, h⟩ | ⟨x, hx, ho⟩
    · exact Or.inl ⟨text, hcode text h⟩
    · exact Or.inr ⟨x, List.mem_append_left _ hx, ho⟩
  failure := hc.failure
  rendered := hc.rendered
  rendered_late := hc.rendered_late

/-- The realm reports on a module. If that is the last mount, nothing was reported on it before, and
no other mount of its number is on its way. -/
theorem Consistent.reported (hc : Consistent l) {r : Realm} {k : Nat} {text : String}
    {rest : List (Nat × Payload)} {o : Report} (hq : l.toRealm = (k, .code text) :: rest)
    (ho : o.isOutcome = true) :
    Consistent { l with
      realm := r
      toRealm := rest
      toHost := l.toHost ++ [(k, o)]
      answer := if k = l.mounts.length then some o else l.answer } := by
  have hhead : (k, Payload.code text) ∈ l.toRealm := by simp [hq]
  have hrest : ∀ x ∈ rest, x ∈ l.toRealm := fun x hx => by simp [hq, hx]
  have hfirst : k = l.mounts.length →
      l.mounts.getLast? = some (.code text) ∧ l.answer = none := by
    intro hk
    obtain ⟨hlast, hnone⟩ := hc.last _ hhead rfl hk
    refine ⟨?_, hnone⟩
    obtain ⟨m, hm, hmp⟩ := Option.map_eq_some_iff.mp hlast
    cases m with
    | code text' =>
      cases hmp
      exact hm
    | clear => cases hmp
  have hsorted : (∀ x ∈ rest, x.2.isMount = true → k < x.1) ∧
      (rest.filter (·.2.isMount)).Pairwise (·.1 < ·.1) := by
    have h := hc.sorted
    rw [hq, List.filter_cons_of_pos (by rfl), List.pairwise_cons] at h
    exact ⟨fun x hx hm => h.1 x (List.mem_filter.mpr ⟨hx, hm⟩), h.2⟩
  constructor
  case latest => exact hc.latest
  case announced =>
    have hnot : o ≠ .ready := by
      rintro rfl
      exact absurd ho Bool.false_ne_true
    simpa [List.count_append, List.count_singleton, hnot] using hc.announced
  case unready =>
    intro hr
    rw [(hc.unready hr).1] at hq
    cases hq
  case toRealm_le => exact fun x hx => hc.toRealm_le x (hrest x hx)
  case toHost_le =>
    intro x hx
    rcases List.mem_append.mp hx with hx | hx
    · exact hc.toHost_le x hx
    · rw [List.mem_singleton.mp hx]
      exact hc.toRealm_le _ hhead
  case heard_le => exact hc.heard_le
  case heard_outcome => exact hc.heard_outcome
  case sorted => exact hsorted.2
  case last =>
    intro x hx hm hn
    have hk : k ≠ l.mounts.length := Nat.ne_of_lt (hn ▸ hsorted.1 x hx hm)
    simpa [hk] using hc.last x (hrest x hx) hm hn
  case toHost_answer =>
    intro x hx hox hn
    rcases List.mem_append.mp hx with hx | hx
    · have hans := hc.toHost_answer x hx hox hn
      have hk : k ≠ l.mounts.length := fun hk => by simp [(hfirst hk).2] at hans
      simpa [hk] using hans
    · rw [List.mem_singleton.mp hx] at hn ⊢
      exact if_pos hn
  case heard_answer =>
    intro x hx hn
    have hans := hc.heard_answer x hx hn
    have hk : k ≠ l.mounts.length := fun hk => by simp [(hfirst hk).2] at hans
    simpa [hk] using hans
  case answer_code =>
    intro o' ha
    by_cases hk : k = l.mounts.length
    · exact ⟨text, (hfirst hk).1⟩
    · exact hc.answer_code o' (by simpa [hk] using ha)
  case underway =>
    intro hr text' ht
    by_cases hk : k = l.mounts.length
    · exact Or.inr ⟨o, ho, if_pos hk, Or.inl (by simp [hk])⟩
    · rcases hc.underway hr text' ht with ⟨t, h⟩ | ⟨o', ho', ha, h⟩
      · rw [hq] at h
        rcases List.mem_cons.mp h with h | h
        · exact absurd (congrArg Prod.fst h).symm hk
        · exact Or.inl ⟨t, h⟩
      · exact Or.inr ⟨o', ho', by simpa [hk] using ha, h.imp_left (List.mem_append_left _)⟩
  case awaiting => exact fun _ _ => Or.inr ⟨(k, o), by simp, ho⟩
  case failure => exact hc.failure
  case rendered => exact hc.rendered
  case rendered_late => exact hc.rendered_late

/-! ### Steps of the host -/

theorem filter_isMount_map {α : Type} (o : Option α) {f : α → Payload}
    (hf : ∀ a, (f a).isMount = false) : (o.map f).toList.filter Payload.isMount = [] := by
  cases o <;> simp [hf]

/-- What brings the realm up to date holds the last mount and no other. -/
theorem filter_isMount_replay (p : LatestPayloads) :
    p.replay.filter Payload.isMount = (p.mount.map LatestPayloads.mountPayload).toList := by
  have hmounts : (p.mount.map LatestPayloads.mountPayload).toList.filter Payload.isMount =
      (p.mount.map LatestPayloads.mountPayload).toList := by
    cases p.mount <;> simp [isMount_mountPayload]
  rw [LatestPayloads.replay, List.filter_append, List.filter_append, List.filter_append, hmounts,
    filter_isMount_map p.scheme fun _ => rfl, filter_isMount_map p.themeStyles fun _ => rfl,
    filter_isMount_map p.utilityStyles fun _ => rfl]
  rfl

theorem mem_replay_iff (p : LatestPayloads) {q : Payload} (hq : q.isMount = true) :
    q ∈ p.replay ↔ p.mount.map LatestPayloads.mountPayload = some q := by
  rw [← Option.mem_toList, ← filter_isMount_replay, List.mem_filter]
  exact ⟨fun h => ⟨h, hq⟩, And.left⟩

/-- The host hears of its realm, which has not got anything so far. -/
theorem Consistent.hear_ready (hc : Consistent l) {k : Nat} {rest : List (Nat × Report)}
    (hq : l.toHost = (k, .ready) :: rest) : Consistent (l.hear (k, .ready) rest) := by
  have hcount : (rest.map (·.2)).count .ready = 0 ∧ l.host.realmReady = false := by
    have h := hc.announced
    rw [hq] at h
    cases hr : l.host.realmReady with
    | false => simpa [hr] using h
    | true => simp [hr] at h
  obtain ⟨hempty, hanswer⟩ := hc.unready hcount.2
  have hrest : ∀ x ∈ rest, x ∈ l.toHost := fun x hx => by simp [hq, hx]
  have hflush : ∀ p, p.isMount = true →
      (p ∈ l.host.latest.replay ↔ l.mounts.getLast?.map LatestPayloads.mountPayload = some p) := by
    intro p hp
    rw [mem_replay_iff _ hp, hc.latest]
  have hcode : ∀ text, l.mounts.getLast? = some (.code text) →
      (l.mounts.length, Payload.code text) ∈ l.host.latest.replay.map (l.mounts.length, ·) := by
    intro text ht
    exact List.mem_map.mpr ⟨.code text, (hflush _ rfl).mpr (by rw [ht]; rfl), rfl⟩
  constructor <;>
    simp only [Link.hear, Link.deliver, Host.receive, Report.isOutcome, hempty, List.nil_append,
      Bool.false_eq_true, if_false, if_true, Awaited]
  case latest => exact hc.latest
  case announced => exact hcount.1
  case unready => exact fun h => nomatch h
  case toRealm_le =>
    intro x hx
    obtain ⟨p, -, rfl⟩ := List.mem_map.mp hx
    exact Nat.le_refl _
  case toHost_le => exact fun x hx => hc.toHost_le x (hrest x hx)
  case heard_le => exact hc.heard_le
  case heard_outcome => exact hc.heard_outcome
  case sorted =>
    rw [List.filter_map]
    show ((l.host.latest.replay.filter Payload.isMount).map _).Pairwise _
    rw [filter_isMount_replay]
    cases l.host.latest.mount <;> simp
  case last =>
    intro x hx hm _
    obtain ⟨p, hp, rfl⟩ := List.mem_map.mp hx
    exact ⟨(hflush p hm).mp hp, hanswer⟩
  case toHost_answer => exact fun x hx => hc.toHost_answer x (hrest x hx)
  case heard_answer => exact hc.heard_answer
  case answer_code => exact hc.answer_code
  case underway => exact fun _ text ht => Or.inl ⟨text, hcode text ht⟩
  case awaiting =>
    intro _ ha
    obtain ⟨p, hp, hpc⟩ := List.any_eq_true.mp ha
    cases p with
    | code text => exact Or.inl ⟨text, List.mem_map.mpr ⟨_, hp, rfl⟩⟩
    | _ => cases hpc
  case failure => exact hc.failure
  case rendered => exact hc.rendered
  case rendered_late => exact hc.rendered_late

/-- The host hears what came of a module, which sets what it knows of the last one. -/
theorem Consistent.hear_outcome (hc : Consistent l) {k : Nat} {o : Report}
    {rest : List (Nat × Report)} (hq : l.toHost = (k, o) :: rest) (ho : o.isOutcome = true) :
    Consistent (l.hear (k, o) rest) := by
  have hhead : (k, o) ∈ l.toHost := by simp [hq]
  have hrest : ∀ x ∈ rest, x ∈ l.toHost := fun x hx => by simp [hq, hx]
  have hheard : ∀ x ∈ l.heard ++ [(k, o)], x ∈ l.heard ∨ x = (k, o) := by
    intro x hx
    rwa [List.mem_append, List.mem_singleton] at hx
  have hnot : o ≠ .ready := by
    rintro rfl
    exact absurd ho Bool.false_ne_true
  have hhost : (l.host.receive o).2 = [] ∧ (l.host.receive o).1.realmReady = l.host.realmReady ∧
      (l.host.receive o).1.latest = l.host.latest ∧
      (l.host.receive o).1.awaitingRender = false ∧
      ((l.host.receive o).1.failure.isSome = true ↔
        l.host.failure.isSome = true ∨ ∃ f, o = .failed f) ∧
      ((l.host.receive o).1.rendered = true ↔ l.host.rendered = true ∨ o = .rendered) := by
    cases o with
    | ready | logged => cases ho
    | rendered | failed => simp [Host.receive]
  obtain ⟨hsent, hready, hlatest, hawaiting, hfailure, hrendered⟩ := hhost
  constructor <;>
    simp only [Link.hear, Link.deliver, hsent, ho, hready, hlatest, hawaiting, hfailure, hrendered,
      if_true, List.map_nil, List.append_nil, Awaited]
  case latest => exact hc.latest
  case announced =>
    rw [← hc.announced, hq]
    simp [hnot]
  case unready => exact hc.unready
  case toRealm_le => exact hc.toRealm_le
  case toHost_le => exact fun x hx => hc.toHost_le x (hrest x hx)
  case heard_le =>
    intro x hx
    rcases hheard x hx with hx | rfl
    · exact hc.heard_le x hx
    · exact hc.toHost_le _ hhead
  case heard_outcome =>
    intro x hx
    rcases hheard x hx with hx | rfl
    · exact hc.heard_outcome x hx
    · exact ho
  case sorted => exact hc.sorted
  case last => exact hc.last
  case toHost_answer => exact fun x hx => hc.toHost_answer x (hrest x hx)
  case heard_answer =>
    intro x hx hn
    rcases hheard x hx with hx | rfl
    · exact hc.heard_answer x hx hn
    · exact hc.toHost_answer _ hhead ho hn
  case answer_code => exact hc.answer_code
  case underway =>
    intro hr text ht
    rcases hc.underway hr text ht with h | ⟨o', ho', ha, h | h⟩
    · exact Or.inl h
    · rw [hq] at h
      rcases List.mem_cons.mp h with h | h
      · exact Or.inr ⟨o', ho', ha, Or.inr (by simp [h])⟩
      · exact Or.inr ⟨o', ho', ha, Or.inl h⟩
    · exact Or.inr ⟨o', ho', ha, Or.inr (List.mem_append_left _ h)⟩
  case awaiting => exact fun _ h => nomatch h
  case failure =>
    rw [hc.failure]
    constructor
    · rintro (⟨x, hx, h⟩ | h)
      · exact ⟨x, List.mem_append_left _ hx, h⟩
      · exact ⟨(k, o), by simp, h⟩
    · rintro ⟨x, hx, h⟩
      rcases hheard x hx with hx | rfl
      · exact Or.inl ⟨x, hx, h⟩
      · exact Or.inr h
  case rendered =>
    intro x hx h
    rcases hheard x hx with hx | rfl
    · exact Or.inl (hc.rendered x hx h)
    · exact Or.inr h
  case rendered_late =>
    rintro (hr | rfl) hm
    · obtain ⟨x, hx, h⟩ := hc.rendered_late hr hm
      exact ⟨x, List.mem_append_left _ hx, h⟩
    · exact ⟨(k, .rendered), by simp, rfl⟩

/-- The host hears a line for the console. -/
theorem Consistent.hear_logged (hc : Consistent l) {k : Nat} {method : ConsoleMethod}
    {args : List String} {rest : List (Nat × Report)}
    (hq : l.toHost = (k, .logged method args) :: rest) :
    Consistent (l.hear (k, .logged method args) rest) := by
  have hrest : ∀ x ∈ rest, x ∈ l.toHost := fun x hx => by simp [hq, hx]
  constructor <;>
    simp only [Link.hear, Link.deliver, Host.receive, Report.isOutcome, List.map_nil,
      List.append_nil, Bool.false_eq_true, if_false, Awaited]
  case latest => exact hc.latest
  case announced =>
    rw [← hc.announced, hq]
    simp
  case unready => exact hc.unready
  case toRealm_le => exact hc.toRealm_le
  case toHost_le => exact fun x hx => hc.toHost_le x (hrest x hx)
  case heard_le => exact hc.heard_le
  case heard_outcome => exact hc.heard_outcome
  case sorted => exact hc.sorted
  case last => exact hc.last
  case toHost_answer => exact fun x hx => hc.toHost_answer x (hrest x hx)
  case heard_answer => exact hc.heard_answer
  case answer_code => exact hc.answer_code
  case underway =>
    intro hr text ht
    rcases hc.underway hr text ht with h | ⟨o, ho, ha, h | h⟩
    · exact Or.inl h
    · rw [hq] at h
      rcases List.mem_cons.mp h with h | h
      · cases h
        cases ho
      · exact Or.inr ⟨o, ho, ha, Or.inl h⟩
    · exact Or.inr ⟨o, ho, ha, Or.inr h⟩
  case awaiting =>
    intro hr ha
    rcases hc.awaiting hr ha with h | ⟨x, hx, ho⟩
    · exact Or.inl h
    · rw [hq] at hx
      rcases List.mem_cons.mp hx with rfl | hx
      · cases ho
      · exact Or.inr ⟨x, hx, ho⟩
  case failure => exact hc.failure
  case rendered => exact hc.rendered
  case rendered_late => exact hc.rendered_late

/-! ### Runs -/

/-- A step of the realm, by what it reports. -/
theorem act_of_reports_nil {k : Nat} {moved : Realm × List Realm.Effect}
    (h : Realm.reports moved.2 = []) : l.act k moved = { l with realm := moved.1 } := by
  simp [act, h]

theorem act_of_reports_singleton {k : Nat} {moved : Realm × List Realm.Effect} {o : Report}
    (h : Realm.reports moved.2 = [o]) :
    l.act k moved = { l with
      realm := moved.1
      toHost := l.toHost ++ [(k, o)]
      answer :=
        if k = l.mounts.length ∧ o.isOutcome = true then some o else l.answer } := by
  cases ho : o.isOutcome with
  | true => simp [act, h, ho]
  | false => simp [act, h, ho]

theorem Consistent.run_other (hc : Consistent l) {s : Realm.Surroundings} {k : Nat} {p : Payload}
    {rest : List (Nat × Payload)} (hq : l.toRealm = (k, p) :: rest) (hp : Host.isCode p = false) :
    Consistent ({ l with toRealm := rest }.act k (l.realm.handle s (.payload p))) := by
  rw [act_of_reports_nil (Realm.reports_handle_payload hp)]
  have hcode : ∀ text, (l.mounts.length, Payload.code text) ∈ l.toRealm →
      (l.mounts.length, Payload.code text) ∈ rest := by
    intro text ht
    rw [hq] at ht
    rcases List.mem_cons.mp ht with ht | ht
    · cases ht
      cases hp
    · exact ht
  have hquiet := @Consistent.quiet l hc (l.realm.handle s (.payload p)).1 rest []
    (hq ▸ List.sublist_cons_self _ _) hcode (by simp)
  simpa using hquiet

theorem consistent_step (hc : Consistent l) (hs : Step l l') : Consistent l' := by
  cases hs with
  | beginCompile => exact hc.of_host rfl rfl rfl rfl rfl
  | compileFailed e => exact hc.of_host rfl rfl rfl rfl rfl
  | compiled code =>
    exact hc.mount rfl rfl rfl (fun _ => ⟨code, rfl⟩) rfl (fun _ => ⟨code, rfl⟩)
  | clear => exact hc.mount rfl rfl rfl (fun h => nomatch h) rfl (fun h => nomatch h)
  | post p hp => exact hc.post hp
  | run s k p rest hq =>
    cases p with
    | code text =>
      obtain ⟨o, ho, hr⟩ := Realm.reports_handle_code (s := s) (r := l.realm) text
      rw [act_of_reports_singleton hr]
      simpa [ho] using hc.reported hq ho
    | clear | themeStyles | utilityStyles | scheme => exact hc.run_other hq rfl
  | console s method args =>
    rw [act_of_reports_singleton rfl]
    simpa [Report.isOutcome] using hc.quiet (List.Sublist.refl _) (fun _ ht => ht)
      (by simp [Report.isOutcome])
  | hear x rest hq =>
    obtain ⟨k, r⟩ := x
    cases r with
    | ready => exact hc.hear_ready hq
    | rendered | failed => exact hc.hear_outcome hq rfl
    | logged => exact hc.hear_logged hq

/-- The invariant holds in every state that is reached. -/
theorem Reachable.consistent (hl : Reachable l) : Consistent l := by
  induction hl with
  | start consoleCapacity => exact consistent_start consoleCapacity
  | step _ hs ih => exact consistent_step ih hs

/-! ## The status at rest -/

theorem mem_late {r : Report} : r ∈ l.late ↔ ∃ k, (k, r) ∈ l.heard ∧ k < l.mounts.length := by
  simp [late]

/-- What was heard is on the last mount, or came late. -/
theorem Consistent.heard_cases (hc : Consistent l) {x : Nat × Report} (hx : x ∈ l.heard) :
    l.answer = some x.2 ∨ x.2 ∈ l.late := by
  rcases Nat.lt_or_eq_of_le (hc.heard_le x hx) with hk | hk
  · exact Or.inr (mem_late.mpr ⟨x.1, hx, hk⟩)
  · exact Or.inl (hc.heard_answer x hx hk)

theorem isFailure_iff {r : Report} : r.isFailure = true ↔ ∃ f, r = .failed f := by
  cases r <;> simp [Report.isFailure]

theorem due_of_code {text : String} {o : Report} (ht : l.mounts.getLast? = some (.code text))
    (ha : l.answer = some o) (ho : o.isOutcome = true) :
    l.due = if o.isFailure then .error else .ready := by
  cases o with
  | ready | logged => cases ho
  | rendered | failed => simp [due, ht, ha, Report.isFailure]

theorem due_of_not_code (hm : ∀ text, l.mounts.getLast? ≠ some (.code text)) : l.due = .idle := by
  unfold due
  split
  all_goals first | rfl | exact absurd ‹_› (hm _)

/-- At rest the host has heard of the last mount, unless that is not a module. -/
theorem Consistent.due_cases (hc : Consistent l) (hr : AtRest l) :
    (∃ o, o.isOutcome = true ∧ l.answer = some o ∧ (l.mounts.length, o) ∈ l.heard ∧
      l.due = if o.isFailure then .error else .ready) ∨
    ((∀ text, l.mounts.getLast? ≠ some (.code text)) ∧ l.answer = none ∧ l.due = .idle) := by
  match hlast : l.mounts.getLast? with
  | some (.code text) =>
    left
    rcases hc.underway hr.ready text hlast with ⟨t, h⟩ | ⟨o, ho, ha, h | h⟩
    · rw [hr.toRealm] at h
      cases h
    · rw [hr.toHost] at h
      cases h
    · exact ⟨o, ho, ha, h, due_of_code hlast ha ho⟩
  | some .clear | none =>
    right
    have hm : ∀ text, l.mounts.getLast? ≠ some (.code text) := by simp [hlast]
    refine ⟨by simp, ?_, due_of_not_code hm⟩
    cases ha : l.answer with
    | none => rfl
    | some o =>
      obtain ⟨text, ht⟩ := hc.answer_code o ha
      exact absurd ht (hm text)

/-- The host knows of a failure of the last mount or of one that came late. -/
theorem Consistent.failure_iff (hc : Consistent l) (hr : AtRest l) :
    l.host.failure.isSome = true ↔ l.due = .error ∨ l.late.any Report.isFailure = true := by
  rw [hc.failure]
  constructor
  · rintro ⟨x, hx, hf⟩
    have hfail := isFailure_iff.mpr hf
    rcases hc.heard_cases hx with ha | hl
    · obtain ⟨text, ht⟩ := hc.answer_code _ ha
      exact Or.inl (by simp [due_of_code ht ha (hc.heard_outcome x hx), hfail])
    · exact Or.inr (List.any_eq_true.mpr ⟨x.2, hl, hfail⟩)
  · rintro (hd | hl)
    · rcases hc.due_cases hr with ⟨o, -, -, hx, ho⟩ | ⟨-, -, ho⟩
      · cases hf : o.isFailure with
        | true => exact ⟨_, hx, isFailure_iff.mp hf⟩
        | false => simp [hd, hf] at ho
      · simp [hd] at ho
    · obtain ⟨r, hr, hf⟩ := List.any_eq_true.mp hl
      obtain ⟨k, hx, -⟩ := mem_late.mp hr
      exact ⟨_, hx, isFailure_iff.mp hf⟩

/-- If nothing failed, the host has heard of a module that was shown, the last one or a late one. -/
theorem Consistent.rendered_iff (hc : Consistent l) (hr : AtRest l)
    (hno : l.host.failure.isSome = false) :
    l.host.rendered = true ↔ l.due = .ready ∨ l.late ≠ [] := by
  -- an outcome that is not a failure is the rendered one
  have hshown : ∀ x ∈ l.heard, x.2 = .rendered := by
    intro x hx
    have hout := hc.heard_outcome x hx
    cases h : x.2 with
    | rendered => rfl
    | failed f =>
      have := hc.failure.mpr ⟨x, hx, f, h⟩
      simp [hno] at this
    | ready | logged =>
      rw [h] at hout
      cases hout
  constructor
  · intro hrend
    rcases hc.due_cases hr with ⟨o, -, -, hx, hd⟩ | ⟨hm, ha, -⟩
    · left
      have ho : o = .rendered := hshown _ hx
      rw [hd, ho]
      rfl
    · right
      obtain ⟨x, hx, -⟩ := hc.rendered_late hrend hm
      rcases hc.heard_cases hx with h | h
      · simp [ha] at h
      · exact List.ne_nil_of_mem h
  · rintro (hd | hl)
    · rcases hc.due_cases hr with ⟨o, -, -, hx, -⟩ | ⟨-, -, ho⟩
      · exact hc.rendered _ hx (hshown _ hx)
      · simp [hd] at ho
    · obtain ⟨r, hr⟩ := List.exists_mem_of_ne_nil _ hl
      obtain ⟨k, hx, -⟩ := mem_late.mp hr
      exact hc.rendered _ hx (hshown _ hx)

/-- At rest the host waits for nothing. -/
theorem Consistent.status_eq (hc : Consistent l) (hr : AtRest l) :
    l.host.status =
      if l.host.failure.isSome then .error else if l.host.rendered then .ready else .idle := by
  have hawaiting : l.host.awaitingRender = false := by
    cases ha : l.host.awaitingRender with
    | false => rfl
    | true =>
      rcases hc.awaiting hr.ready ha with ⟨t, h⟩ | ⟨x, h, -⟩
      · rw [hr.toRealm] at h
        cases h
      · rw [hr.toHost] at h
        cases h
  simp [Host.status, hr.compileError, hr.compiling, hawaiting]

/-- The status at rest is the one that is due if and only if no report came late that outweighs
it. -/
theorem settled_eq_iff {due : Status} {late : List Report} (hd : due ≠ .compiling) :
    settled due late = due ↔
      (due = .idle → late = []) ∧ (due = .ready → late.any Report.isFailure = false) := by
  cases due with
  | compiling => exact absurd rfl hd
  | error => simp [settled]
  | ready => simp [settled]
  | idle =>
    cases late with
    | nil => simp [settled]
    | cons r rest =>
      simp only [settled, reduceCtorEq, false_or, ne_eq, not_false_eq_true, if_true]
      split <;> simp

/-- **The status at rest.** Once everything has been handled, the host has heard what came of the
last mount, and its status is the one that this calls for, unless a report on an earlier module has
come late: a failure then hides that the last module was shown, and any report hides that there is
nothing to show. -/
theorem status_at_rest (hl : Reachable l) (hr : AtRest l) :
    l.due ≠ .compiling ∧ l.host.status = settled l.due l.late ∧
      (l.host.status = l.due ↔
        (l.due = .idle → l.late = []) ∧
          (l.due = .ready → l.late.any Report.isFailure = false)) := by
  have hc := hl.consistent
  have hdue : l.due ≠ .compiling := by
    rcases hc.due_cases hr with ⟨o, -, -, -, hd⟩ | ⟨-, -, hd⟩
    · rw [hd]
      split <;> simp
    · simp [hd]
  have hstatus : l.host.status = settled l.due l.late := by
    rw [hc.status_eq hr, settled]
    by_cases hf : l.host.failure.isSome = true
    · rw [if_pos hf, if_pos ((hc.failure_iff hr).mp hf)]
    · rw [if_neg hf, if_neg (mt (hc.failure_iff hr).mpr hf)]
      by_cases hs : l.host.rendered = true
      · rw [if_pos hs, if_pos ((hc.rendered_iff hr (Bool.eq_false_iff.mpr hf)).mp hs)]
      · rw [if_neg hs,
          if_neg (mt (hc.rendered_iff hr (Bool.eq_false_iff.mpr hf)).mpr hs)]
  exact ⟨hdue, hstatus, hstatus ▸ settled_eq_iff hdue⟩

/-- A page on which every module loads. -/
def allLoaded : Realm.Surroundings :=
  { load := fun code => .ok ⟨code, []⟩
    render := fun _ => none }

/-- A page on which no module loads. -/
def noneLoaded : Realm.Surroundings :=
  { load := fun _ => .error (.moduleLoad "not found")
    render := fun _ => none }

/-- A module that fails while the next one is posted: the second is shown, and the host still says
that there is an error. -/
theorem status_at_rest_of_late_failure :
    ∃ l, Reachable l ∧ AtRest l ∧ l.due = .ready ∧ l.late = [.failed ⟨"not found", none⟩] ∧
      l.host.status = settled l.due l.late ∧ l.host.status = .error := by
  obtain ⟨l, hl, hr, hdue, hlate, hstatus⟩ : ∃ l, Reachable l ∧ AtRest l ∧ l.due = .ready ∧
      l.late = [.failed ⟨"not found", none⟩] ∧ l.host.status = .error := by
    refine ⟨_, .step (.step (.step (.step (.step (.step (.step (.start 10)
      (.hear _ _ rfl)) (.compiled "a")) (.compiled "b")) (.run noneLoaded _ _ _ rfl))
      (.run allLoaded _ _ _ rfl)) (.hear _ _ rfl)) (.hear _ _ rfl), ?_⟩
    exact ⟨⟨rfl, rfl, rfl, rfl, rfl⟩, rfl, rfl, rfl⟩
  exact ⟨l, hl, hr, hdue, hlate, (status_at_rest hl hr).2.1, hstatus⟩

/-- The status at rest is not always that of the last mount: a module that is shown after its
removal was posted makes the preview ready, and there is nothing to show. -/
theorem status_at_rest_of_late_render :
    ¬ ∀ l, Reachable l → AtRest l → l.host.status = l.due := by
  intro h
  obtain ⟨l, hl, hr, hdue, hstatus⟩ : ∃ l, Reachable l ∧ AtRest l ∧ l.due = .idle ∧
      l.host.status = .ready := by
    refine ⟨_, .step (.step (.step (.step (.step (.step (.start 10)
      (.hear _ _ rfl)) (.compiled "a")) .clear) (.run allLoaded _ _ _ rfl))
      (.run allLoaded _ _ _ rfl)) (.hear _ _ rfl), ?_⟩
    exact ⟨⟨rfl, rfl, rfl, rfl, rfl⟩, rfl, rfl⟩
  have heq := h l hl hr
  rw [hdue, hstatus] at heq
  cases heq

end Link
end LivePreview
