import LivePreview.Proofs.RealmHistory
/-!
# Which tree a component is mounted in

A component takes the place of the one before it if that one was rendered without a failure and
nothing has happened to it since; otherwise it gets a tree of its own. The realm keeps two flags and
a counter for this. `Standing` says the same about a whole history, and `Tracked` that the flags and
the counter follow it.

The main statement is `mount_follows_faults`; the first component behind a failure is always mounted
anew, however many modules could not be loaded in between.
-/
namespace LivePreview.Realm

/-- A turn that leaves a component alone: it is not removed, no module without a component takes its
place, nothing is rendered, and nothing fails. -/
structure Turn.Spares (t : Turn) : Prop where
  clear : t.input ≠ .payload .clear
  component : ∀ m, .load m ∈ t.effects → m.component? ≠ none
  render : ∀ q, .render q ∉ t.effects
  failure : ∀ f, .report (.failed f) ∉ t.effects

/-- The component that was rendered last was rendered without a failure, and has been left alone
since. -/
def Standing (turns : List Turn) : Prop :=
  ∃ earlier t since q, turns = earlier ++ t :: since ∧ .render q ∈ t.effects ∧
    t.surroundings.render q = none ∧ ∀ u ∈ since, u.Spares

/-- How the state of a realm follows its history. -/
structure Tracked (turns : List Turn) (r : Realm) : Prop where
  standing : Standing turns ↔ r.mounted = true ∧ r.remountNext = false
  /-- No key was higher than the current one. -/
  key_le : ∀ q ∈ requests (log turns), q.rootKey ≤ r.rootKey
  /-- A component that is shown was mounted last, under the current key. -/
  key_eq : r.mounted = true → ∃ q, (requests (log turns)).getLast? = some q ∧ q.rootKey = r.rootKey

variable {s : Surroundings} {r r' : Realm} {i : Input} {effects : List Effect}
variable {turns earlier later : List Turn} {t : Turn} {q : MountRequest}

theorem not_standing_nil : ¬ Standing [] := by
  rintro ⟨earlier, t, since, q, h, -⟩
  cases earlier <;> cases h

/-- One more turn either renders a component without a failure, or leaves alone the one that is
standing. -/
theorem standing_concat :
    Standing (turns ++ [t]) ↔
      (∃ q, .render q ∈ t.effects ∧ t.surroundings.render q = none) ∨
        (t.Spares ∧ Standing turns) := by
  constructor
  · rintro ⟨earlier, u, since, q, h, hq, hrender, hsince⟩
    rcases concat_eq_append_cons h with ⟨-, -, rfl⟩ | ⟨rest, rfl, hturns⟩
    · exact .inl ⟨q, hq, hrender⟩
    · exact .inr ⟨hsince t (by simp), earlier, u, rest, q, hturns, hq, hrender,
        fun v hv => hsince v (by simp [hv])⟩
  · rintro (⟨q, hq, hrender⟩ | ⟨hspares, earlier, u, since, q, rfl, hq, hrender, hsince⟩)
    · exact ⟨turns, t, [], q, rfl, hq, hrender, by simp⟩
    · refine ⟨earlier, u, since ++ [t], q, by simp, hq, hrender, fun v hv => ?_⟩
      rcases List.mem_append.mp hv with hv | hv
      · exact hsince v hv
      · rwa [List.mem_singleton.mp hv]

theorem tracked_start : Tracked [] start where
  standing := by simp [not_standing_nil, start]
  key_le := by simp
  key_eq := by simp [start]

/-- A turn without a request, behind which no component is standing that was not standing before. -/
theorem Tracked.concat_of_requests (ht : Tracked turns r) (hrequests : requests effects = [])
    (hkey : r'.rootKey = r.rootKey) (hmounted : r'.mounted = true → r.mounted = true)
    (hstanding : Turn.Spares ⟨s, i, effects⟩ ∧ (r.mounted = true ∧ r.remountNext = false) ↔
      r'.mounted = true ∧ r'.remountNext = false) : Tracked (turns ++ [⟨s, i, effects⟩]) r' where
  standing := by
    have hrender : ∀ q, .render q ∉ effects := fun q hq => by
      simpa [hrequests] using mem_requests.mpr hq
    rw [standing_concat, ht.standing, ← hstanding]
    simp [hrender]
  key_le := by simpa [hrequests, hkey] using ht.key_le
  key_eq := by simpa [hrequests, hkey] using fun h => ht.key_eq (hmounted h)

/-- A turn without a request behind which nothing is standing, whatever was standing before. -/
theorem Tracked.concat_of_not_spares (ht : Tracked turns r) (hrequests : requests effects = [])
    (hkey : r'.rootKey = r.rootKey) (hmounted : r'.mounted = true → r.mounted = true)
    (hspares : ¬ Turn.Spares ⟨s, i, effects⟩)
    (hgone : ¬ (r'.mounted = true ∧ r'.remountNext = false)) :
    Tracked (turns ++ [⟨s, i, effects⟩]) r' :=
  ht.concat_of_requests hrequests hkey hmounted (iff_of_false (fun h => hspares h.1) hgone)

theorem request_eq_hotSwap {url component : String} :
    (r.request url component).mode = .hotSwap ↔ r.mounted = true ∧ r.remountNext = false := by
  unfold request
  split <;> simp_all

theorem request_rootKey_hotSwap {url component : String}
    (h : (r.request url component).mode = .hotSwap) :
    (r.request url component).rootKey = r.rootKey := by
  unfold request at h ⊢
  split <;> simp_all

theorem request_rootKey_remount {url component : String}
    (h : (r.request url component).mode = .remount) :
    (r.request url component).rootKey = r.rootKey + 1 := by
  unfold request at h ⊢
  split <;> simp_all

theorem le_request_rootKey (r : Realm) (url component : String) :
    r.rootKey ≤ (r.request url component).rootKey := by
  unfold request
  split <;> simp

/-- **A turn keeps the flags and the counter in step with the history.** -/
theorem Tracked.concat (ht : Tracked turns r) (h : Outcome s r i r' effects) :
    Tracked (turns ++ [⟨s, i, effects⟩]) r' := by
  cases h with
  | aside i e hi he =>
    have hspares : Turn.Spares ⟨s, i, [e]⟩ := by
      rcases Effect.isAside_cases he with ⟨slot, css, rfl⟩ | ⟨value, rfl⟩ | ⟨method, args, rfl⟩ <;>
        exact ⟨hi, by simp, by simp, by simp⟩
    have hrequests : requests [e] = [] := by
      rcases Effect.isAside_cases he with ⟨slot, css, rfl⟩ | ⟨value, rfl⟩ | ⟨method, args, rfl⟩ <;>
        rfl
    exact ht.concat_of_requests hrequests rfl id ⟨fun h => h.2, fun h => ⟨hspares, h⟩⟩
  | fault f =>
    exact ht.concat_of_not_spares rfl rfl id (fun hspares => hspares.failure f (by simp))
      fun h => by cases h.2
  | refused text e hload =>
    exact ht.concat_of_not_spares rfl rfl id
      (fun hspares => hspares.failure ⟨loadMessage e, none⟩ (by simp)) fun h => by cases h.2
  | bare text m hload hcomponent =>
    exact ht.concat_of_not_spares (by simp [Effect.request?]) rfl (fun h => by cases h)
      (fun hspares => hspares.component m (by simp) hcomponent) fun h => by cases h.1
  | shown text m component hload hcomponent =>
    have hle := le_request_rootKey r m.url component
    have hrequests : requests (.hideOverlay :: .load m :: (releaseOf r.current ++
        [.render (r.request m.url component),
          .report (verdict (s.render (r.request m.url component)))])) =
        [r.request m.url component] := by
      simp [Effect.request?]
    exact {
      standing := by
        rw [standing_concat]
        constructor
        · rintro (⟨q, hq, hrender⟩ | ⟨hspares, -⟩)
          · obtain rfl : q = r.request m.url component := by
              simpa only [hrequests, List.mem_singleton] using mem_requests.mpr hq
            exact ⟨rfl, by simpa using hrender⟩
          · exact absurd (mem_requests.mp (hrequests ▸ List.mem_singleton_self _))
              (hspares.render _)
        · rintro ⟨-, hrender⟩
          exact .inl ⟨_, mem_requests.mp (hrequests ▸ List.mem_singleton_self _), by
            simpa using hrender⟩
      key_le := by
        intro q hq
        rw [log_concat, requests_append, hrequests] at hq
        rcases List.mem_append.mp hq with hq | hq
        · exact Nat.le_trans (ht.key_le q hq) hle
        · exact Nat.le_of_eq (congrArg MountRequest.rootKey (List.mem_singleton.mp hq))
      key_eq := fun _ => ⟨_, by rw [log_concat, requests_append, hrequests]; simp, rfl⟩ }
  | cleared =>
    exact ht.concat_of_not_spares (by simp [Effect.request?]) rfl (fun h => by cases h)
      (fun hspares => hspares.clear rfl) fun h => by cases h.1

/-- The state follows the history in every history. -/
theorem History.tracked (h : History turns r) : Tracked turns r := by
  induction h with
  | start => exact tracked_start
  | handle s i h ih => exact ih.concat (outcome s _ i)

/-! ## A single request -/

/-- A turn that renders something renders just that, and the request is the one that the state
before calls for. -/
theorem Outcome.request_eq (h : Outcome s r i r' effects) (hq : .render q ∈ effects) :
    requests effects = [q] ∧ (∃ url component, q = r.request url component) ∧
      (s.render q = none → ∀ f, .report (.failed f) ∉ effects) := by
  cases h with
  | aside i e hi he =>
    rcases Effect.isAside_cases he with ⟨slot, css, rfl⟩ | ⟨value, rfl⟩ | ⟨method, args, rfl⟩ <;>
      simp at hq
  | fault | refused => simp at hq
  | bare text m hload hcomponent | cleared =>
    rw [← mem_requests] at hq
    simp [Effect.request?] at hq
  | shown text m component hload hcomponent =>
    obtain rfl : q = r.request m.url component := by
      rw [← mem_requests] at hq
      simpa [Effect.request?] using hq
    refine ⟨by simp [Effect.request?], ⟨_, _, rfl⟩, fun hrender f hf => ?_⟩
    cases hcurrent : r.current <;> simp [hcurrent, releaseOf, hrender, verdict] at hf

/-- Of two places in a history, one turn comes first, or both are the same. -/
theorem append_cons_cases {before since : List Turn} {u v : Turn} {rest : List Turn}
    (h : before ++ u :: since = earlier ++ v :: rest) : v ∈ since ∨ u = v ∨ u ∈ rest := by
  rcases List.append_eq_append_iff.mp h with ⟨more, -, hmore⟩ | ⟨more, -, hmore⟩
  · cases more with
    | nil => exact .inr (.inl (List.cons.inj hmore).1)
    | cons w more => exact .inl (by simp [(List.cons.inj hmore).2])
  · cases more with
    | nil => exact .inr (.inl (List.cons.inj hmore).1.symm)
    | cons w more => exact .inr (.inr (by simp [(List.cons.inj hmore).2]))

/-- Behind a failure no component is standing until another one is rendered. -/
theorem History.not_standing_of_failure {before since : List Turn} {u : Turn} {f : Failure}
    (h : History turns r) (hturns : turns = before ++ u :: since)
    (hf : .report (.failed f) ∈ u.effects) (hsince : ∀ v ∈ since, requests v.effects = []) :
    ¬ Standing turns := by
  rintro ⟨earlier, t, rest, q, hsplit, hq, hrender, hspares⟩
  rcases append_cons_cases (hturns ▸ hsplit) with ht | rfl | hu
  · have := mem_requests.mpr hq
    simp [hsince t ht] at this
  · obtain ⟨r₀, -, hout⟩ := h.split hsplit
    exact (hout.request_eq hq).2.2 hrender f hf
  · exact (hspares u hu).failure f hf

/-- **Mounts follow the faults.** A component takes the place of the one before it exactly if that
one was rendered without a failure, nothing was shown in its place since, and nothing has failed
since. It then has the key of the request before it; a component that is mounted anew has a key that
is higher than all before. So the first component that is rendered behind a failure, however many
modules could not be loaded in between, is mounted anew under a new key. -/
theorem mount_follows_faults (h : History turns r) (hturns : turns = earlier ++ t :: later)
    (hq : .render q ∈ t.effects) :
    requests t.effects = [q] ∧
      (q.mode = .hotSwap ↔ Standing earlier) ∧
      (q.mode = .hotSwap →
        ∃ p, (requests (log earlier)).getLast? = some p ∧ p.rootKey = q.rootKey) ∧
      (q.mode = .remount → ∀ p ∈ requests (log earlier), p.rootKey < q.rootKey) ∧
      ∀ before u since f, earlier = before ++ u :: since → .report (.failed f) ∈ u.effects →
        (∀ v ∈ since, requests v.effects = []) →
          q.mode = .remount ∧ ∀ p ∈ requests (log earlier), p.rootKey < q.rootKey := by
  obtain ⟨r₀, h₀, hout⟩ := h.split hturns
  obtain ⟨hrequests, ⟨url, component, rfl⟩, -⟩ := hout.request_eq hq
  have ht := h₀.tracked
  have hremount : (r₀.request url component).mode = .remount →
      ∀ p ∈ requests (log earlier), p.rootKey < (r₀.request url component).rootKey := by
    intro hmode p hp
    rw [request_rootKey_remount hmode]
    exact Nat.lt_succ_of_le (ht.key_le p hp)
  refine ⟨hrequests, request_eq_hotSwap.trans ht.standing.symm, fun hmode => ?_, hremount, ?_⟩
  · rw [request_rootKey_hotSwap hmode]
    exact ht.key_eq (request_eq_hotSwap.mp hmode).1
  · intro before u since f hbefore hf hsince
    have hmode : (r₀.request url component).mode = .remount := by
      cases hm : (r₀.request url component).mode with
      | remount => rfl
      | hotSwap =>
        exact absurd (ht.standing.mpr (request_eq_hotSwap.mp hm))
          (h₀.not_standing_of_failure hbefore hf hsince)
    exact ⟨hmode, hremount hmode⟩

/-- A component fails, and the next module cannot be loaded: the one after it is mounted anew. -/
theorem mount_follows_faults_behind_failed_load :
    let s : Surroundings :=
      { load := fun text =>
          if text = "bad" then .error (.moduleLoad "Unexpected token")
          else .ok ⟨"blob:" ++ text, [⟨"default", true⟩]⟩
        render := fun q => if q.url = "blob:c" then some ⟨"boom", none⟩ else none }
    ∃ earlier t r q, History (earlier ++ [t]) r ∧
      (earlier ++ [t]).map (fun t => (t.surroundings, t.input)) =
        ["a", "b", "c", "bad", "d"].map (fun text => (s, .payload (.code text))) ∧
      .render q ∈ t.effects ∧
      (requests (log earlier)).map (fun p => (p.rootKey, p.mode)) =
        [(1, .remount), (1, .hotSwap), (1, .hotSwap)] ∧
      q.mode = .remount ∧ ¬ Standing earlier ∧
      ∀ p ∈ requests (log earlier), p.rootKey < q.rootKey := by
  intro s
  obtain ⟨before, u, t, r, q, h, hinputs, hq, hkeys, f, hf⟩ : ∃ before u t r q,
      History (before ++ [u] ++ [t]) r ∧
      (before ++ [u] ++ [t]).map (fun t => (t.surroundings, t.input)) =
        ["a", "b", "c", "bad", "d"].map (fun text => (s, .payload (.code text))) ∧
      .render q ∈ t.effects ∧
      (requests (log (before ++ [u]))).map (fun p => (p.rootKey, p.mode)) =
        [(1, .remount), (1, .hotSwap), (1, .hotSwap)] ∧
      ∃ f, .report (.failed f) ∈ u.effects :=
    ⟨_, _, _, _, ⟨2, .remount, "blob:d", "default"⟩,
      ((((History.start.handle s (.payload (.code "a"))).handle s
        (.payload (.code "b"))).handle s (.payload (.code "c"))).handle s
        (.payload (.code "bad"))).handle s (.payload (.code "d")), rfl,
      mem_requests.mp (List.mem_singleton.mpr rfl), rfl, ⟨"Unexpected token", none⟩, by decide⟩
  obtain ⟨-, hmode, -, -, hbehind⟩ := mount_follows_faults h rfl hq
  obtain ⟨hremount, hkey⟩ := hbehind before u [] f rfl hf (by simp)
  refine ⟨before ++ [u], t, r, q, h, hinputs, hq, hkeys, hremount, fun hs => ?_, hkey⟩
  rw [hmode.mpr hs] at hremount
  cases hremount

end LivePreview.Realm
