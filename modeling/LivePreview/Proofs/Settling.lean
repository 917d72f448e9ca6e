import LivePreview.Coordinator
/-!
# What is said about a source

A coordinator hears of edits, of its two timers, and of transformations that end, in any order and
with any number of them under way. This module takes every such order: a `Run` is a sequence of
steps, each of them one of the coordinator's own operations, together with the log of what was
received and announced. Times are whatever they are; no step waits for a deadline, so a run by the
clock is one run among others (`reaches_editAt`, `reaches_advance`).

A module or an error is only ever announced for the source that is current at that moment, and
after a blank source nothing is said until another source comes (`Settled.hushed`). The invariant
behind the last statement (`Settled.settled`) is that the verdict on the current source is still to
come, by a timer, by a transformation of this very source or by its error that is held back, or has
been announced last of all.
-/
namespace LivePreview
namespace Coordinator

/-- An entry of the log: a source that came in, or an event with the source that was current when it
was announced. -/
inductive Mark where
  | received (source : String)
  | announced (current : String) (event : EditEvent)

/-- The entries for what a step announced. -/
def announcements (c : Coordinator) (events : List EditEvent) : List Mark :=
  events.map (.announced c.current)

/-- The events of a log. -/
def eventsOf (log : List Mark) : List EditEvent :=
  log.filterMap fun
    | .announced _ e => some e
    | .received _ => none

/-- The sources of a log. -/
def sourcesOf (log : List Mark) : List String :=
  log.filterMap fun
    | .received source => some source
    | .announced _ _ => none

/-- One step of a coordinator, with what it adds to the log. -/
inductive Step (s : Schedule) (c : Coordinator) : List Mark → Coordinator → Prop
  /-- An edit. -/
  | edit (now : Nat) (source : String) :
      Step s c
        (.received source ::
          announcements (c.edit s.timing now source).1 (c.edit s.timing now source).2)
        (c.edit s.timing now source).1
  /-- The end of the debounce window. -/
  | debounce (time : Nat) : c.debounceAt = some time →
      Step s c (announcements c.beginTransform.1 c.beginTransform.2) c.beginTransform.1
  /-- The end of some transformation. -/
  | finish (now : Nat) (source : String) : source ∈ c.inFlight →
      Step s c
        (announcements (c.finishTransform s.timing now source (s.transform source)).1
          (c.finishTransform s.timing now source (s.transform source)).2)
        (c.finishTransform s.timing now source (s.transform source)).1
  /-- The end of the time of grace. -/
  | grace (h : HeldError) : c.held = some h →
      Step s c (announcements c.endGrace.1 c.endGrace.2) c.endGrace.1

/-- The states that are reached from the start, with their logs. -/
inductive Run (s : Schedule) : Coordinator → List Mark → Prop
  | start : Run s Coordinator.start []
  | step {c c' : Coordinator} {log marks : List Mark} :
      Run s c log → Step s c marks c' → Run s c' (log ++ marks)

/-- What has to be said about a source in the end. -/
def verdict (s : Schedule) (source : String) : EditEvent :=
  if Text.blank source then .cleared
  else
    match s.transform source with
    | .ok output => .compiled output
    | .error e => .failed e

/-- An event that names an outcome names that of the source. -/
def Supported (s : Schedule) (source : String) : EditEvent → Prop
  | .compiled output => s.transform source = .ok output
  | .failed e => s.transform source = .error e
  | .compiling => True
  | .cleared => True

variable {s : Schedule} {c c' : Coordinator} {log marks : List Mark}

/-! ## The four operations -/

theorem edit_blank {t : Timing} {now : Nat} {source : String} (h : Text.blank source = true) :
    c.edit t now source =
      ({ c with current := source, debounceAt := none, held := none }, [.cleared]) := by
  rw [edit, if_pos h]

theorem edit_not_blank {t : Timing} {now : Nat} {source : String}
    (h : Text.blank source = false) :
    c.edit t now source =
      ({ c with current := source, debounceAt := some (now + t.debounce) }, []) := by
  rw [edit, if_neg (by simp [h])]

theorem finishTransform_of_ne {t : Timing} {now : Nat} {source : String} {v : Verdict}
    (h : source ≠ c.current) :
    c.finishTransform t now source v = ({ c with inFlight := c.inFlight.erase source }, []) := by
  simp [finishTransform, h]

theorem finishTransform_ok {t : Timing} {now : Nat} {output : Transpiled} :
    c.finishTransform t now c.current (.ok output) =
      ({ c with inFlight := c.inFlight.erase c.current, held := none }, [.compiled output]) := by
  simp [finishTransform]

theorem finishTransform_error {t : Timing} {now : Nat} {e : SourceError} :
    c.finishTransform t now c.current (.error e) =
      ({ c with
          inFlight := c.inFlight.erase c.current
          held := some ⟨now + t.grace, c.current, e⟩ }, []) := by
  simp [finishTransform]

theorem endGrace_of_eq {h : HeldError} (hh : c.held = some h) (hs : h.source = c.current) :
    c.endGrace = ({ c with held := none }, [.failed h.error]) := by
  simp [endGrace, hh, hs]

theorem endGrace_of_ne {h : HeldError} (hh : c.held = some h) (hs : h.source ≠ c.current) :
    c.endGrace = ({ c with held := none }, []) := by
  simp [endGrace, hh, hs]

/-- **What a step can come to.** An edit either clears everything or arms the timer; the timer
starts the transformation of the current source; a transformation that ends is dropped, announced,
or leaves an error that is held back; and an error that was held back is announced or dropped. -/
inductive Outcome (s : Schedule) (c : Coordinator) : List Mark → Coordinator → Prop
  | cleared (source : String) : Text.blank source = true →
      Outcome s c [.received source, .announced source .cleared]
        { c with current := source, debounceAt := none, held := none }
  | armed (source : String) (time : Nat) : Text.blank source = false →
      Outcome s c [.received source] { c with current := source, debounceAt := some time }
  | started (time : Nat) : c.debounceAt = some time →
      Outcome s c [.announced c.current .compiling]
        { c with debounceAt := none, inFlight := c.inFlight ++ [c.current] }
  | dropped (source : String) : source ∈ c.inFlight → source ≠ c.current →
      Outcome s c [] { c with inFlight := c.inFlight.erase source }
  | compiled (output : Transpiled) : c.current ∈ c.inFlight → s.transform c.current = .ok output →
      Outcome s c [.announced c.current (.compiled output)]
        { c with inFlight := c.inFlight.erase c.current, held := none }
  | heldBack (e : SourceError) (time : Nat) : c.current ∈ c.inFlight →
      s.transform c.current = .error e →
      Outcome s c []
        { c with
          inFlight := c.inFlight.erase c.current
          held := some ⟨time, c.current, e⟩ }
  | failed (h : HeldError) : c.held = some h → h.source = c.current →
      Outcome s c [.announced c.current (.failed h.error)] { c with held := none }
  | forgotten (h : HeldError) : c.held = some h → h.source ≠ c.current →
      Outcome s c [] { c with held := none }

theorem Step.outcome (h : Step s c marks c') : Outcome s c marks c' := by
  cases h with
  | edit now source =>
    cases hb : Text.blank source with
    | true => rw [edit_blank hb]; exact .cleared source hb
    | false => rw [edit_not_blank hb]; exact .armed source _ hb
  | debounce time ht => exact .started time ht
  | finish now source hs =>
    by_cases hc : source = c.current
    · subst hc
      rcases hv : s.transform c.current with e | output
      · rw [finishTransform_error]; exact .heldBack e _ hs hv
      · rw [finishTransform_ok]; exact .compiled output hs hv
    · rw [finishTransform_of_ne hc]; exact .dropped source hs hc
  | grace h hh =>
    by_cases hc : h.source = c.current
    · rw [endGrace_of_eq hh hc]; exact .failed h hh hc
    · rw [endGrace_of_ne hh hc]; exact .forgotten h hh hc

/-! ## The invariant -/

/-- What holds of every state that a run reaches, with its log. -/
structure Settled (s : Schedule) (c : Coordinator) (log : List Mark) : Prop where
  /-- Only sources that are not blank are transformed. -/
  inFlight : ∀ source ∈ c.inFlight, Text.blank source = false
  /-- An error that is held back is that of its source. -/
  held : ∀ h, c.held = some h →
    Text.blank h.source = false ∧ s.transform h.source = .error h.error
  /-- A blank source waits for nothing. -/
  idle : Text.blank c.current = true → c.debounceAt = none ∧ c.held = none
  /-- The current source is the one that came in last. -/
  current : c.current = (sourcesOf log).getLast?.getD ""
  /-- Every outcome in the log is that of the source it was announced for. -/
  supported : ∀ source event, .announced source event ∈ log → Supported s source event
  /-- Behind a blank source all is quiet until another one comes. -/
  hushed : ∀ before source after, log = before ++ .announced source .cleared :: after →
    (∀ t, .received t ∈ after → Text.blank t = true) →
    Text.blank c.current = true ∧ ∀ t event, .announced t event ∈ after → event = .cleared
  /-- The verdict on the current source is still to come, or it came last. -/
  settled : (∃ source, .received source ∈ log) → c.debounceAt = none → c.current ∉ c.inFlight →
    (∀ h, c.held = some h → h.source ≠ c.current) →
    (eventsOf log).getLast? = some (verdict s c.current)

theorem settled_start : Settled s Coordinator.start [] where
  inFlight := by simp [Coordinator.start]
  held := by simp [Coordinator.start]
  idle := by simp [Coordinator.start]
  current := rfl
  supported := by simp
  hushed := by simp
  settled := by simp

@[simp] theorem eventsOf_append (a b : List Mark) : eventsOf (a ++ b) = eventsOf a ++ eventsOf b :=
  List.filterMap_append

@[simp] theorem sourcesOf_append (a b : List Mark) :
    sourcesOf (a ++ b) = sourcesOf a ++ sourcesOf b :=
  List.filterMap_append

/-- A place in a log that grew is a place in the old log or one in what was added. -/
theorem split_append {a b before after : List Mark} {m : Mark}
    (h : a ++ b = before ++ m :: after) :
    (∃ rest, a = before ++ m :: rest ∧ after = rest ++ b) ∨
      ∃ more, b = more ++ m :: after ∧ before = a ++ more := by
  rcases List.append_eq_append_iff.mp h with ⟨more, hb, ha⟩ | ⟨rest, ha, hb⟩
  · exact Or.inr ⟨more, ha, hb⟩
  · cases rest with
    | nil => exact Or.inr ⟨[], by simpa using hb.symm, by simpa using ha.symm⟩
    | cons x rest =>
      rw [List.cons_append, List.cons.injEq] at hb
      obtain ⟨rfl, rfl⟩ := hb
      exact Or.inl ⟨rest, ha, rfl⟩

theorem Outcome.inFlight (ho : Outcome s c marks c') (hs : Settled s c log) :
    ∀ source ∈ c'.inFlight, Text.blank source = false := by
  cases ho with
  | started time ht =>
    intro source hm
    rcases List.mem_append.mp hm with hm | hm
    · exact hs.inFlight source hm
    · obtain rfl : source = c.current := by simpa using hm
      cases hb : Text.blank c.current with
      | false => rfl
      | true => simp [(hs.idle hb).1] at ht
  | dropped source hm hc => exact fun t ht => hs.inFlight t (List.mem_of_mem_erase ht)
  | compiled output hm hv => exact fun t ht => hs.inFlight t (List.mem_of_mem_erase ht)
  | heldBack e time hm hv => exact fun t ht => hs.inFlight t (List.mem_of_mem_erase ht)
  | cleared | armed | failed | forgotten => exact hs.inFlight

theorem Outcome.held (ho : Outcome s c marks c') (hs : Settled s c log) :
    ∀ h, c'.held = some h →
      Text.blank h.source = false ∧ s.transform h.source = .error h.error := by
  cases ho with
  | heldBack e time hm hv =>
    intro h hh
    obtain rfl : _ = h := Option.some.inj hh
    exact ⟨hs.inFlight _ hm, hv⟩
  | cleared | compiled | failed | forgotten =>
    intro h hh
    cases hh
  | armed | started | dropped => exact hs.held

theorem Outcome.idle (ho : Outcome s c marks c') (hs : Settled s c log) :
    Text.blank c'.current = true → c'.debounceAt = none ∧ c'.held = none := by
  cases ho with
  | cleared source hb => exact fun _ => ⟨rfl, rfl⟩
  | armed source time hb => exact fun h => absurd h (by simp [hb])
  | started time ht => exact fun h => absurd (hs.idle h).1 (by simp [ht])
  | dropped source hm hc => exact hs.idle
  | compiled output hm hv => exact fun h => ⟨(hs.idle h).1, rfl⟩
  | heldBack e time hm hv => exact fun h => absurd h (by simp [hs.inFlight _ hm])
  | failed h hh hc => exact fun hb => ⟨(hs.idle hb).1, rfl⟩
  | forgotten h hh hc => exact fun hb => ⟨(hs.idle hb).1, rfl⟩

theorem Outcome.current (ho : Outcome s c marks c') (hs : Settled s c log) :
    c'.current = (sourcesOf (log ++ marks)).getLast?.getD "" := by
  cases ho with
  | cleared | armed => simp [sourcesOf]
  | _ => simpa [sourcesOf] using hs.current

theorem Outcome.supported (ho : Outcome s c marks c') (hs : Settled s c log) :
    ∀ source event, .announced source event ∈ log ++ marks → Supported s source event := by
  intro source event hm
  rcases List.mem_append.mp hm with hm | hm
  · exact hs.supported source event hm
  · cases ho with
    | cleared t hb =>
      obtain ⟨-, rfl⟩ : source = t ∧ event = .cleared := by simpa using hm
      trivial
    | started time ht =>
      obtain ⟨-, rfl⟩ : source = c.current ∧ event = .compiling := by simpa using hm
      trivial
    | compiled output hi hv =>
      obtain ⟨rfl, rfl⟩ : source = c.current ∧ event = .compiled output := by simpa using hm
      exact hv
    | failed h hh hc =>
      obtain ⟨rfl, rfl⟩ : source = c.current ∧ event = .failed h.error := by simpa using hm
      exact hc ▸ (hs.held h hh).2
    | armed t time hb => simp at hm
    | dropped | heldBack | forgotten => simp at hm

/-- Where the current source is blank a step says nothing but that a source is blank, and it stays
blank unless another one comes in. -/
theorem Outcome.quiet (ho : Outcome s c marks c') (hs : Settled s c log)
    (hb : Text.blank c.current = true) (hm : ∀ t, .received t ∈ marks → Text.blank t = true) :
    Text.blank c'.current = true ∧ ∀ t event, .announced t event ∈ marks → event = .cleared := by
  cases ho with
  | cleared source hs => exact ⟨hs, by simp⟩
  | armed source time hn => exact absurd (hm source (by simp)) (by simp [hn])
  | started time ht => exact absurd (hs.idle hb).1 (by simp [ht])
  | dropped source hi hc => exact ⟨hb, by simp⟩
  | compiled output hi hv => exact absurd hb (by simp [hs.inFlight _ hi])
  | heldBack e time hi hv => exact absurd hb (by simp [hs.inFlight _ hi])
  | failed h hh hc => exact absurd (hs.idle hb).2 (by simp [hh])
  | forgotten h hh hc => exact ⟨hb, by simp⟩

theorem Outcome.hushed (ho : Outcome s c marks c') (hs : Settled s c log) :
    ∀ before source after, log ++ marks = before ++ .announced source .cleared :: after →
      (∀ t, .received t ∈ after → Text.blank t = true) →
      Text.blank c'.current = true ∧ ∀ t event, .announced t event ∈ after → event = .cleared := by
  intro before source after hsplit hblank
  rcases split_append hsplit with ⟨rest, hlog, rfl⟩ | ⟨more, hmarks, -⟩
  · obtain ⟨hb, hrest⟩ := hs.hushed before source rest hlog
      fun t ht => hblank t (List.mem_append_left _ ht)
    obtain ⟨hb', hquiet⟩ := ho.quiet hs hb fun t ht => hblank t (List.mem_append_right _ ht)
    refine ⟨hb', fun t event ht => ?_⟩
    rcases List.mem_append.mp ht with ht | ht
    · exact hrest t event ht
    · exact hquiet t event ht
  · -- only an edit announces this, and nothing behind it
    have hmem : Mark.announced source .cleared ∈ marks := hmarks ▸ List.mem_append_right _ (.head _)
    cases ho with
    | cleared t hb =>
      obtain rfl : source = t := by simpa using hmem
      have hlast : after = [] := by
        rcases more with - | ⟨x, more⟩
        · simp at hmarks
        · have hlen := congrArg List.length hmarks
          simp only [List.length_cons, List.length_append, List.length_nil] at hlen
          exact List.eq_nil_of_length_eq_zero (by omega)
      exact ⟨hb, by simp [hlast]⟩
    | armed t time hb => simp at hmem
    | started time ht => simp at hmem
    | compiled output hi hv => simp at hmem
    | failed h hh hc => simp at hmem
    | dropped | heldBack | forgotten => simp at hmem

theorem Outcome.settled (ho : Outcome s c marks c') (hs : Settled s c log) :
    (∃ source, .received source ∈ log ++ marks) → c'.debounceAt = none →
      c'.current ∉ c'.inFlight → (∀ h, c'.held = some h → h.source ≠ c'.current) →
      (eventsOf (log ++ marks)).getLast? = some (verdict s c'.current) := by
  intro hr hd hf hh
  cases ho with
  | cleared source hb => simp [eventsOf, verdict, hb]
  | armed source time hb => cases hd
  | started time ht => exact absurd (List.mem_append_right _ (List.mem_singleton_self _)) hf
  | dropped source hm hc =>
    rw [List.append_nil] at hr ⊢
    exact hs.settled hr hd (fun h => hf ((List.mem_erase_of_ne hc.symm).mpr h)) hh
  | compiled output hm hv => simp [eventsOf, verdict, hs.inFlight _ hm, hv]
  | heldBack e time hm hv => exact absurd rfl (hh _ rfl)
  | failed h hh' hc =>
    obtain ⟨hb, hv⟩ := hs.held h hh'
    rw [hc] at hb hv
    simp [eventsOf, verdict, hb, hv]
  | forgotten h hh' hc =>
    rw [List.append_nil] at hr ⊢
    refine hs.settled hr hd hf fun h' hh'' => ?_
    obtain rfl : h = h' := Option.some.inj (hh'.symm.trans hh'')
    exact hc

theorem settled_step (hs : Settled s c log) (h : Step s c marks c') :
    Settled s c' (log ++ marks) where
  inFlight := h.outcome.inFlight hs
  held := h.outcome.held hs
  idle := h.outcome.idle hs
  current := h.outcome.current hs
  supported := h.outcome.supported hs
  hushed := h.outcome.hushed hs
  settled := h.outcome.settled hs

theorem Run.invariant (h : Run s c log) : Settled s c log := by
  induction h with
  | start => exact settled_start
  | step _ hstep ih => exact settled_step ih hstep

/-- **A coordinator speaks for the current source, and settles on it.** In every run a module or an
error is announced only while the source it belongs to is the current one; behind a blank source
nothing else is announced until a source comes in that is not blank; and when no timer is armed, no
transformation under way and no error held back, the event announced last is the verdict on the
current source, which is the one that came in last. -/
theorem announced_for_current_source (h : Run s c log) :
    (∀ source event, .announced source event ∈ log → Supported s source event) ∧
    (∀ before source after, log = before ++ .announced source .cleared :: after →
      (∀ t, .received t ∈ after → Text.blank t = true) →
      ∀ t event, .announced t event ∈ after → event = .cleared) ∧
    ((∃ source, .received source ∈ log) →
      c.debounceAt = none → c.inFlight = [] → c.held = none →
      (sourcesOf log).getLast? = some c.current ∧
        (eventsOf log).getLast? = some (verdict s c.current)) := by
  have hs := h.invariant
  refine ⟨hs.supported,
    fun before source after hlog hb => (hs.hushed before source after hlog hb).2,
    fun hr hd hf hh => ⟨?_, hs.settled hr hd (by simp [hf]) (by simp [hh])⟩⟩
  obtain ⟨source, hm⟩ := hr
  have hne : sourcesOf log ≠ [] :=
    List.ne_nil_of_mem (List.mem_filterMap.mpr ⟨_, hm, rfl⟩)
  rw [hs.current, List.getLast?_eq_some_getLast hne, Option.getD_some]

/-- A source that comes back while its first transformation and that of another one are under way:
the other result is dropped, and the error is announced once the second one has replaced it. -/
theorem announced_for_source_that_came_back :
    let s : Schedule :=
      ⟨⟨150, 500⟩, fun t => if t = "a" then .error ⟨"no", 1, 0⟩ else .ok ⟨t, [], []⟩⟩
    let log : List Mark :=
      [.received "a", .announced "a" .compiling, .received "b", .announced "b" .compiling,
        .received "a", .announced "a" .compiling, .announced "a" (.failed ⟨"no", 1, 0⟩)]
    Run s ⟨"a", none, none, []⟩ log ∧ (eventsOf log).getLast? = some (verdict s "a") := by
  intro s log
  have h1 : Run s ⟨"a", none, none, ["a"]⟩ (log.take 2) :=
    (Run.start.step (.edit 0 "a")).step (.debounce 150 rfl)
  have h2 : Run s ⟨"b", none, none, ["a", "b"]⟩ (log.take 4) :=
    (h1.step (.edit 160 "b")).step (.debounce 310 rfl)
  have h3 : Run s ⟨"a", some 470, some ⟨840, "a", ⟨"no", 1, 0⟩⟩, []⟩ (log.take 5) :=
    ((h2.step (.edit 320 "a")).step (.finish 330 "b" (by decide))).step
      (.finish 340 "a" (by decide))
  have h4 : Run s ⟨"a", none, some ⟨980, "a", ⟨"no", 1, 0⟩⟩, []⟩ (log.take 6) :=
    (h3.step (.debounce 470 rfl)).step (.finish 480 "a" (by decide))
  have h5 : Run s ⟨"a", none, none, []⟩ log := h4.step (.grace _ rfl)
  exact ⟨h5, ((announced_for_current_source h5).2.2 ⟨"a", by simp [log]⟩ rfl rfl rfl).2⟩

/-! ## Running by the clock

The clock only chooses among the steps: what it makes of an edit or of time that passes is a
sequence of them. -/

/-- Some steps lead from one state to another and announce the events. -/
def Reaches (s : Schedule) (c : Coordinator) (events : List EditEvent) (c' : Coordinator) : Prop :=
  ∀ log, Run s c log → ∃ more, Run s c' (log ++ more) ∧ eventsOf more = events

@[simp] theorem eventsOf_announcements (c : Coordinator) (events : List EditEvent) :
    eventsOf (announcements c events) = events := by
  rw [eventsOf, announcements, List.filterMap_map]
  exact List.filterMap_some

theorem Reaches.refl : Reaches s c [] c := fun _ h => ⟨[], by simpa using h, rfl⟩

theorem Reaches.trans {first later : List EditEvent} {d : Coordinator}
    (h : Reaches s c first c') (h' : Reaches s c' later d) : Reaches s c (first ++ later) d := by
  intro log hrun
  obtain ⟨a, ha, rfl⟩ := h log hrun
  obtain ⟨b, hb, rfl⟩ := h' _ ha
  exact ⟨a ++ b, by rwa [← List.append_assoc], eventsOf_append a b⟩

theorem Step.reaches (h : Step s c marks c') : Reaches s c (eventsOf marks) c' :=
  fun _ hrun => ⟨marks, hrun.step h, rfl⟩

theorem reaches_edit (now : Nat) (source : String) :
    Reaches s c (c.edit s.timing now source).2 (c.edit s.timing now source).1 := by
  have h := (Step.edit (s := s) (c := c) now source).reaches
  rwa [show eventsOf (Mark.received source :: _) = _ from eventsOf_announcements _ _] at h

theorem reaches_beginTransform {time : Nat} (h : c.debounceAt = some time) :
    Reaches s c c.beginTransform.2 c.beginTransform.1 := by
  simpa using (Step.debounce (s := s) time h).reaches

theorem reaches_endGrace {h : HeldError} (hh : c.held = some h) :
    Reaches s c c.endGrace.2 c.endGrace.1 := by
  simpa using (Step.grace (s := s) h hh).reaches

theorem finishTransform_inFlight (t : Timing) (now : Nat) (source : String) (v : Verdict)
    (c : Coordinator) :
    (c.finishTransform t now source v).1.inFlight = c.inFlight.erase source := by
  by_cases hc : source = c.current
  · subst hc
    rcases v with e | output
    · rw [finishTransform_error]
    · rw [finishTransform_ok]
  · rw [finishTransform_of_ne hc]

theorem reaches_finishSources (now : Nat) (sources : List String) (hc : c.inFlight = sources) :
    Reaches s c (finishSources s now sources c).2 (finishSources s now sources c).1 := by
  induction sources generalizing c with
  | nil => exact Reaches.refl
  | cons source rest ih =>
    have hstep := (Step.finish (s := s) (c := c) now source (by simp [hc])).reaches
    rw [eventsOf_announcements] at hstep
    exact hstep.trans (ih (by simp [finishTransform_inFlight, hc]))

theorem reaches_transformNow {now time : Nat} (h : c.debounceAt = some time) :
    Reaches s c (c.transformNow s now).2 (c.transformNow s now).1 :=
  (reaches_beginTransform h).trans (reaches_finishSources now _ rfl)

/-- The timer that comes first is armed. -/
theorem of_nextTimer {time : Nat} {isDebounce : Bool}
    (h : c.nextTimer = some (time, isDebounce)) :
    if isDebounce then c.debounceAt = some time else ∃ e, c.held = some e := by
  unfold nextTimer at h
  rcases hd : c.debounceAt with - | d <;> rcases hh : c.held with - | e <;>
    simp only [hd, hh, Option.map_some, Option.map_none] at h
  · cases h
  · obtain ⟨-, rfl⟩ : e.deadline = time ∧ false = isDebounce := by simpa using h
    exact ⟨e, rfl⟩
  · obtain ⟨rfl, rfl⟩ : d = time ∧ true = isDebounce := by simpa using h
    rfl
  · split at h
    · obtain ⟨rfl, rfl⟩ : d = time ∧ true = isDebounce := by simpa using h
      rfl
    · obtain ⟨-, rfl⟩ : e.deadline = time ∧ false = isDebounce := by simpa using h
      exact ⟨e, rfl⟩

@[simp] theorem moment_snd (now : Nat) (events : List EditEvent) :
    (moment now events).map (·.2) = events := by
  simp [moment, Function.comp_def]

theorem reaches_fireTimers (limit fuel : Nat) :
    Reaches s c ((fireTimers s limit fuel c).2.map (·.2)) (fireTimers s limit fuel c).1 := by
  induction fuel generalizing c with
  | zero => exact Reaches.refl
  | succ fuel ih =>
    rw [fireTimers]
    rcases ht : c.nextTimer with - | ⟨time, isDebounce⟩
    · exact Reaches.refl
    · have harmed := of_nextTimer ht
      by_cases hl : limit < time
      · simpa [hl] using Reaches.refl
      · cases isDebounce with
        | true => simpa [hl] using (reaches_transformNow harmed).trans ih
        | false =>
          obtain ⟨e, he⟩ := harmed
          simpa [hl] using (reaches_endGrace he).trans ih

/-- An edit by the clock is a sequence of steps. -/
theorem reaches_editAt (now : Nat) (source : String) :
    Reaches s c ((c.editAt s now source).2.map (·.2)) (c.editAt s now source).1 := by
  have h := reaches_edit (s := s) (c := c) now source
  rw [editAt]
  rcases hd : (c.edit s.timing now source).1.debounceAt with - | time
  · simpa [hd] using h
  · by_cases hn : time ≤ now
    · simpa [hd, hn] using h.trans (reaches_beginTransform hd)
    · simpa [hd, hn] using h

/-- Time that passes is a sequence of steps. -/
theorem reaches_advance (now limit : Nat) :
    Reaches s c ((c.advance s now limit).2.map (·.2)) (c.advance s now limit).1 := by
  have h := reaches_finishSources (s := s) (c := c) now _ rfl
  simpa [advance, finishAll] using h.trans (reaches_fireTimers limit 3)

end Coordinator
end LivePreview
