import LivePreview.Proofs.OnTime
/-!
# Runs by the clock

A run hears of edits at given moments and lets the time pass between them (`play`). If no timer that
is running ends together with an edit or with the other timer (`Apart`), then the events of the run
are those that its edits ask for, at the moments at which they are asked for and at no other
(`events_by_the_clock`).

The proof is one induction over the edits. Before each edit the timers end that are due
(`OnTime.fireTimers`), then the edit comes; `OnTime` holds all the while, of the edits so far.
Waiting times of zero are no exception: a transformation then starts, ends and fails within one
moment, at different places of it.

How a session cuts the time between two edits into pieces makes no difference (`advance_advance`).
-/

namespace LivePreview
namespace Coordinator

/-- The events of a coordinator that waits for each edit in turn, and after the last one until a
limit. -/
def play (s : Schedule) (limit : Nat) : Nat → Coordinator → List TimedEdit → List TimedEvent
  | now, c, [] => (c.advance s now limit).2
  | now, c, e :: r =>
    let (c, waited) := c.advance s now e.1
    let (c, edited) := c.editAt s e.1 e.2
    waited ++ (edited ++ play s limit e.1 c r)

variable {s : Schedule} {edits rest : List TimedEdit} {c : Coordinator} {log : List TimedEvent}

/-! ## The timers of a coordinator -/

theorem nextTimer_debounce {d : Nat} (h : c.nextTimer = some (d, true)) :
    c.debounceAt = some d ∧ ∀ g, c.held = some g → d ≤ g.deadline := by
  obtain ⟨current, _ | e, _ | g, inFlight⟩ := c <;> simp [nextTimer] at h ⊢
  · exact h
  · split at h
    · cases h
      exact ⟨rfl, by assumption⟩
    · cases h

theorem nextTimer_grace {t : Nat} (h : c.nextTimer = some (t, false)) :
    ∃ g, c.held = some g ∧ g.deadline = t ∧ ∀ d, c.debounceAt = some d → t < d := by
  obtain ⟨current, _ | e, _ | g, inFlight⟩ := c <;> simp [nextTimer] at h ⊢
  · exact h
  · split at h
    · cases h
    · cases h
      exact ⟨rfl, by omega⟩

theorem nextTimer_none (h : c.nextTimer = none) : c.debounceAt = none ∧ c.held = none := by
  obtain ⟨current, _ | e, _ | g, inFlight⟩ := c <;> simp [nextTimer] at h ⊢
  split at h <;> cases h

theorem nextTimer_le {t : Nat} {b : Bool} (h : c.nextTimer = some (t, b)) :
    (∀ d, c.debounceAt = some d → t ≤ d) ∧ ∀ g, c.held = some g → t ≤ g.deadline := by
  cases b with
  | true =>
    obtain ⟨hd, hg⟩ := nextTimer_debounce h
    refine ⟨fun d hd' => ?_, hg⟩
    rw [hd] at hd'
    exact Nat.le_of_eq (Option.some.inj hd')
  | false =>
    obtain ⟨g, hg, rfl, hd⟩ := nextTimer_grace h
    refine ⟨fun d hd' => Nat.le_of_lt (hd d hd'), fun g' hg' => ?_⟩
    rw [hg] at hg'
    obtain rfl := Option.some.inj hg'
    exact Nat.le_refl _

/-- How many timers can still end without an edit: the debounce window brings one more with it. -/
def timersLeft (c : Coordinator) : Nat :=
  (if c.debounceAt.isSome then 2 else 0) + if c.held.isSome then 1 else 0

theorem timersLeft_le (c : Coordinator) : c.timersLeft ≤ 3 := by
  obtain ⟨current, _ | e, _ | g, inFlight⟩ := c <;> simp [timersLeft]

theorem timersLeft_eq_zero (h : c.timersLeft ≤ 0) : c.debounceAt = none ∧ c.held = none := by
  obtain ⟨current, _ | e, _ | g, inFlight⟩ := c <;> simp [timersLeft] at h ⊢

theorem finishSources_debounceAt (now : Nat) (sources : List String) (c : Coordinator) :
    (finishSources s now sources c).1.debounceAt = c.debounceAt := by
  induction sources generalizing c with
  | nil => rfl
  | cons source r ih =>
    rw [finishSources, ih]
    by_cases hc : source = c.current
    · subst hc
      cases hv : s.transform c.current with
      | ok o => rw [finishTransform_ok]
      | error e => rw [finishTransform_error]
    · rw [finishTransform_of_ne hc]

theorem timersLeft_transformNow {d : Nat} (h : c.debounceAt = some d) :
    (c.transformNow s d).1.timersLeft < c.timersLeft := by
  have hnone : (c.transformNow s d).1.debounceAt = none :=
    finishSources_debounceAt d _ c.beginTransform.1
  have hheld : (if (c.transformNow s d).1.held.isSome then 1 else 0) ≤ 1 := by
    split <;> omega
  simp only [timersLeft, hnone, h, Option.isSome_none, Option.isSome_some, if_true,
    Bool.false_eq_true, if_false]
  omega

theorem timersLeft_endGrace {g : HeldError} (h : c.held = some g) :
    c.endGrace.1.timersLeft < c.timersLeft := by
  simp [Coordinator.endGrace, timersLeft, h]

theorem moment_append (t : Nat) (a b : List EditEvent) :
    moment t (a ++ b) = moment t a ++ moment t b := List.map_append

/-! ## Time in pieces

A session lets the time pass in pieces of any length; `play` takes all of it up to the next edit at
once. Both come to the same (`advance_advance`). -/

theorem finishSources_inFlight (now : Nat) (sources : List String) (h : c.inFlight = sources) :
    (finishSources s now sources c).1.inFlight = [] := by
  induction sources generalizing c with
  | nil => exact h
  | cons source r ih =>
    rw [finishSources]
    exact ih (by rw [finishTransform_inFlight, h, List.erase_cons_head])

/-- What happens when a timer ends. -/
def endTimer (s : Schedule) (t : Nat) (isDebounce : Bool) (c : Coordinator) :
    Coordinator × List EditEvent :=
  if isDebounce then c.transformNow s t else c.endGrace

/-- The end of a timer leaves fewer of them, and no transformation under way. -/
theorem timersLeft_endTimer {t : Nat} {b : Bool} (h : c.nextTimer = some (t, b)) :
    (c.endTimer s t b).1.timersLeft < c.timersLeft ∧
      (c.inFlight = [] → (c.endTimer s t b).1.inFlight = []) := by
  cases b with
  | true =>
    exact ⟨timersLeft_transformNow (nextTimer_debounce h).1,
      fun _ => finishSources_inFlight t _ rfl⟩
  | false =>
    obtain ⟨g, hg, -⟩ := nextTimer_grace h
    refine ⟨timersLeft_endGrace hg, fun hidle => ?_⟩
    simpa [endTimer, Coordinator.endGrace, hg] using hidle

theorem fireTimers_of_none {limit fuel : Nat} (h : c.nextTimer = none) :
    fireTimers s limit fuel c = (c, []) := by
  cases fuel with
  | zero => rfl
  | succ fuel => rw [fireTimers, h]

theorem fireTimers_of_lt {limit fuel t : Nat} {b : Bool} (h : c.nextTimer = some (t, b))
    (hlt : limit < t) : fireTimers s limit fuel c = (c, []) := by
  cases fuel with
  | zero => rfl
  | succ fuel =>
    rw [fireTimers, h]
    exact if_pos hlt

theorem fireTimers_of_le {limit fuel t : Nat} {b : Bool} (h : c.nextTimer = some (t, b))
    (hle : t ≤ limit) :
    fireTimers s limit (fuel + 1) c =
      ((fireTimers s limit fuel (c.endTimer s t b).1).1,
        moment t (c.endTimer s t b).2 ++ (fireTimers s limit fuel (c.endTimer s t b).1).2) := by
  rw [fireTimers, h]
  exact if_neg (Nat.not_lt.mpr hle)

theorem nextTimer_of_timersLeft (h : c.timersLeft ≤ 0) : c.nextTimer = none := by
  obtain ⟨hd, hg⟩ := timersLeft_eq_zero h
  simp [nextTimer, hd, hg]

/-- More fuel than there are timers changes nothing. -/
theorem fireTimers_fuel {limit fuel : Nat} (h : c.timersLeft ≤ fuel) :
    fireTimers s limit (fuel + 1) c = fireTimers s limit fuel c := by
  induction fuel generalizing c with
  | zero =>
    have hnone := nextTimer_of_timersLeft h
    rw [fireTimers_of_none hnone, fireTimers_of_none hnone]
  | succ fuel ih =>
    cases hnext : c.nextTimer with
    | none => rw [fireTimers_of_none hnext, fireTimers_of_none hnext]
    | some next =>
      obtain ⟨time, b⟩ := next
      rcases Nat.lt_or_ge limit time with hlate | hdue
      · rw [fireTimers_of_lt hnext hlate, fireTimers_of_lt hnext hlate]
      · have hleft := (timersLeft_endTimer (s := s) hnext).1
        rw [fireTimers_of_le hnext hdue, fireTimers_of_le hnext hdue, ih (by omega)]

/-- No timer comes back by itself. -/
theorem timersLeft_fireTimers (limit fuel : Nat) :
    (fireTimers s limit fuel c).1.timersLeft ≤ c.timersLeft := by
  induction fuel generalizing c with
  | zero => exact Nat.le_refl _
  | succ fuel ih =>
    cases hnext : c.nextTimer with
    | none => simp [fireTimers_of_none hnext]
    | some next =>
      obtain ⟨time, b⟩ := next
      rcases Nat.lt_or_ge limit time with hlate | hdue
      · simp [fireTimers_of_lt hnext hlate]
      · rw [fireTimers_of_le hnext hdue]
        exact Nat.le_trans ih (Nat.le_of_lt (timersLeft_endTimer hnext).1)

/-- The timers up to a time end up to an earlier one first. -/
theorem fireTimers_fireTimers {m limit fuel : Nat} (hm : m ≤ limit) (h : c.timersLeft ≤ fuel)
    (hidle : c.inFlight = []) :
    let first := fireTimers s m fuel c
    let later := fireTimers s limit fuel first.1
    fireTimers s limit fuel c = (later.1, first.2 ++ later.2) ∧ first.1.inFlight = [] := by
  induction fuel generalizing c with
  | zero => exact ⟨rfl, hidle⟩
  | succ fuel ih =>
    cases hnext : c.nextTimer with
    | none =>
      rw [fireTimers_of_none hnext]
      exact ⟨rfl, hidle⟩
    | some next =>
      obtain ⟨time, b⟩ := next
      rcases Nat.lt_or_ge m time with hlate | hdue
      · rw [fireTimers_of_lt hnext hlate]
        exact ⟨rfl, hidle⟩
      · obtain ⟨hleft, hidle'⟩ := timersLeft_endTimer (s := s) hnext
        obtain ⟨heq, hfirst⟩ := ih (by omega) (hidle' hidle)
        have hless : (fireTimers s m fuel (c.endTimer s time b).1).1.timersLeft ≤ fuel :=
          Nat.le_trans (timersLeft_fireTimers m fuel) (by omega)
        rw [fireTimers_of_le hnext hdue, fireTimers_of_le hnext (Nat.le_trans hdue hm), heq]
        exact ⟨by simp only [fireTimers_fuel hless, List.append_assoc], hfirst⟩

/-- **Time passes in pieces.** A coordinator that waits up to some moment and then up to a later one
says the same, and is the same, as one that waits up to the later moment. -/
theorem advance_advance {now m limit : Nat} (hm : m ≤ limit) :
    let first := c.advance s now m
    let later := first.1.advance s m limit
    c.advance s now limit = (later.1, first.2 ++ later.2) := by
  obtain ⟨heq, hidle⟩ := fireTimers_fireTimers (s := s) hm
    (timersLeft_le (c.finishAll s now).1) (finishSources_inFlight now _ rfl)
  have hnothing : ∀ d : Coordinator, d.inFlight = [] → d.finishAll s m = (d, []) := by
    intro d hd
    simp [finishAll, hd, finishSources]
  simp only [advance, heq, hnothing _ hidle, moment, List.map_nil, List.nil_append,
    List.append_assoc]

namespace OnTime

variable {k k' limit : Nat}

/-- Up to a place all timers end in their order. -/
theorem fireTimers
    (hlimit : 4 * limit < k' ∧ k' ≤ 4 * limit + 4)
    (hdue : ∀ k c log, OnTime s edits k c log → c.inFlight = [] → k ≤ k' →
      ∀ time b, c.nextTimer = some (time, b) → time ≤ limit → 4 * time + 4 ≤ k')
    (hties : ∀ x t e, Outlasts s edits x t e → x < t → 4 * t + 3 < k' →
      ¬ Starts s edits t ∧ ∀ f ∈ edits, f.1 ≠ t)
    (fuel : Nat) (h : OnTime s edits k c log) (hidle : c.inFlight = []) (hk : k ≤ k')
    (hfuel : c.timersLeft ≤ fuel) :
    OnTime s edits k' (Coordinator.fireTimers s limit fuel c).1
      (log ++ (Coordinator.fireTimers s limit fuel c).2) := by
  -- along the fuel, which is enough for the timers that are left
  induction fuel generalizing k c log with
  | zero =>
    obtain ⟨hd, hg⟩ := timersLeft_eq_zero hfuel
    simpa [Coordinator.fireTimers] using h.wait hidle (by simp [hd]) (by simp [hg]) hk hties
  | succ fuel ih =>
    cases hnext : c.nextTimer with
    | none =>
      obtain ⟨hd, hg⟩ := nextTimer_none hnext
      rw [fireTimers_of_none hnext, List.append_nil]
      exact h.wait hidle (by simp [hd]) (by simp [hg]) hk hties
    | some next =>
      obtain ⟨time, isDebounce⟩ := next
      rcases Nat.lt_or_ge limit time with hlate | hle
      · obtain ⟨hd, hg⟩ := nextTimer_le hnext
        rw [fireTimers_of_lt hnext hlate, List.append_nil]
        refine h.wait hidle (fun d hd' => ?_) (fun g hg' => ?_) hk hties
        · have := hd d hd'
          omega
        · have := hg g hg'
          omega
      · -- wait for the timer that comes first, let it end, and go on from there
        have hroom := hdue k c log h hidle hk time isDebounce hnext hle
        have hleft := (timersLeft_endTimer (s := s) hnext).1
        rw [fireTimers_of_le hnext hle, ← List.append_assoc]
        cases isDebounce with
        | true =>
          obtain ⟨hd, hg⟩ := nextTimer_debounce hnext
          obtain ⟨hs, hkd⟩ := (h.debounce time).mp hd
          have hready : OnTime s edits (4 * time + 1) c log := by
            refine h.wait hidle (fun d hd' => ?_) (fun g hg' => ?_) hkd
              fun x t e ho hxt ht => hties x t e ho hxt (by omega)
            · rw [hd] at hd'
              obtain rfl := Option.some.inj hd'
              omega
            · have := hg g hg'
              omega
          have hended := (hready.beginTransform hd).finishAll hs
          rw [List.append_assoc, ← moment_append] at hended
          exact ih hended (hended.inFlight_eq_nil fun x => by omega) (by omega) (by omega)
        | false =>
          obtain ⟨g, hg, rfl, hd⟩ := nextTimer_grace hnext
          obtain ⟨x, hx⟩ := (h.held g).mp hg
          have hready : OnTime s edits (4 * g.deadline + 3) c log := by
            refine h.wait hidle (fun d hd' => ?_) (fun g' hg' => ?_) hx.due
              fun x t e ho hxt ht => hties x t e ho hxt (by omega)
            · have := hd d hd'
              omega
            · rw [hg] at hg'
              obtain rfl := Option.some.inj hg'
              omega
          have hended := hready.endGrace hg
          exact ih hended (hended.inFlight_eq_nil fun x => by omega) (by omega) (by omega)

/-- Lets the time pass after an edit: up to the next one, or to the last moment of a run. -/
theorem advance {now : Nat} (h : OnTime s edits k c log)
    (hnow : k = 4 * now + 1 ∨ k = 4 * now + 2) (hk : k ≤ k')
    (hlimit : k' = 4 * limit + 1 ∨ k' = 4 * limit + 4)
    (hdue : ∀ k c log, OnTime s edits k c log → c.inFlight = [] → k ≤ k' →
      ∀ time b, c.nextTimer = some (time, b) → time ≤ limit → 4 * time + 4 ≤ k')
    (hties : ∀ x t e, Outlasts s edits x t e → x < t → 4 * t + 3 < k' →
      ¬ Starts s edits t ∧ ∀ f ∈ edits, f.1 ≠ t) :
    OnTime s edits k' (c.advance s now limit).1 (log ++ (c.advance s now limit).2) := by
  have hfinished : ∃ k₁ ≤ k', OnTime s edits k₁ (c.finishAll s now).1
      (log ++ moment now (c.finishAll s now).2) ∧ (c.finishAll s now).1.inFlight = [] := by
    by_cases hidle : c.inFlight = []
    · have hnothing : c.finishAll s now = (c, []) := by
        simp [Coordinator.finishAll, hidle, finishSources]
      rw [hnothing]
      exact ⟨k, hk, by simpa [moment] using h, hidle⟩
    · obtain ⟨x, hx, hs⟩ := h.idle hidle
      obtain rfl : x = now := by omega
      subst hx
      have hended := h.finishAll hs
      exact ⟨_, by omega, hended, hended.inFlight_eq_nil fun y => by omega⟩
  obtain ⟨k₁, hk₁, hended, hidle⟩ := hfinished
  have hfired := hended.fireTimers (by omega) hdue hties 3 hidle hk₁ (timersLeft_le _)
  simpa [Coordinator.advance] using hfired

end OnTime

/-! ## From edit to edit -/

section Play

variable {limit u : Nat} {source : String}

/-- Errors that outlast their time of grace before the next edit meet no other timer. -/
theorem Apart.ties (h : Apart s (edits ++ rest)) {x t : Nat} {e : SourceError}
    (hlater : ∀ f ∈ rest, t < f.1) (ho : Outlasts s edits x t e) (hxt : x < t) :
    ¬ Starts s edits t ∧ ∀ f ∈ edits, f.1 ≠ t := by
  have hall : Outlasts s (edits ++ rest) x t e :=
    (outlasts_append (fun f hf => Nat.le_of_lt (hlater f hf))
      fun f hf => Nat.lt_trans hxt (hlater f hf)).mpr ho
  obtain ⟨hstarts, hedits⟩ := h.grace x t e hall hxt
  exact ⟨fun hs => hstarts ((starts_append hlater).mpr hs),
    fun f hf => hedits f (List.mem_append_left _ hf)⟩

/-- No timer that is running ends when the next edit comes. -/
theorem Apart.not_due (h : Apart s (edits ++ (u, source) :: rest)) {k : Nat}
    (hc : OnTime s edits k c log) (hidle : c.inFlight = []) (hk : k ≤ 4 * u + 1) {time : Nat}
    {b : Bool} (hnext : c.nextTimer = some (time, b)) : time ≠ u := by
  rintro rfl
  have hlater : ∀ f ∈ (time, source) :: rest, time ≤ f.1 := by
    intro f hf
    rcases List.mem_cons.mp hf with rfl | hf
    · exact Nat.le_refl _
    · exact (List.pairwise_cons.mp (List.pairwise_append.mp h.ordered).2.1).1 f hf
  have hpast : ∀ f ∈ edits, f.1 ≤ time := by
    intro f hf
    have := hc.past f hf
    omega
  cases b with
  | true =>
    obtain ⟨hs, -⟩ := (hc.debounce time).mp (nextTimer_debounce hnext).1
    obtain ⟨before, e, rfl, hblank, ht⟩ := (starts_iff_last hpast).mp hs
    exact h.debounce before e (time, source) rest (by simp) hblank ht.symm
  | false =>
    obtain ⟨g, hg, rfl, hd⟩ := nextTimer_grace hnext
    obtain ⟨x, hx⟩ := (hc.held g).mp hg
    have hended := hx.ended
    have hsoon : ∀ y < g.deadline, ∀ f ∈ (g.deadline, source) :: rest, y < f.1 :=
      fun y hy f hf => Nat.lt_of_lt_of_le hy (hlater f hf)
    have ho : Outlasts s edits x g.deadline g.error :=
      { starts := hx.starts
        fails := hx.fails
        expires := hx.deadline.symm
        -- a later start would still have its timer, which would come before this one
        alone := fun y hxy hy hs => by
          by_cases hlt : 4 * y + 2 < k
          · exact hx.alone y hxy hlt hs
          · have := hd y (hc.armed hidle hs (by omega))
            omega
        filled := fun f hf hxf _ => hx.filled f hf hxf }
    have hall : Outlasts s (edits ++ (g.deadline, source) :: rest) x g.deadline g.error :=
      (outlasts_append hlater (hsoon x (by omega))).mpr ho
    exact (h.grace x _ _ hall (by omega)).2 (g.deadline, source) (by simp) rfl

/-- Up to the next edit. -/
theorem OnTime.untilEdit {k now : Nat} (hapart : Apart s (edits ++ (u, source) :: rest))
    (h : OnTime s edits k c log)
    (hnow : k = 4 * now + 1 ∨ k = 4 * now + 2 ∧ Starts s edits now) (hu : now ≤ u) :
    OnTime s edits (4 * u + 1) (c.advance s now u).1 (log ++ (c.advance s now u).2) := by
  have hk : k ≤ 4 * u + 1 := by
    rcases hnow with hk | ⟨hk, hs⟩
    · omega
    · -- a transformation starts at once only if the next edit comes later
      have hpast : ∀ f ∈ edits, f.1 ≤ now := by
        intro f hf
        have := h.past f hf
        omega
      obtain ⟨before, e, rfl, hblank, ht⟩ := (starts_iff_last hpast).mp hs
      have hne : u ≠ e.1 + s.timing.debounce :=
        hapart.debounce before e (u, source) rest (by simp) hblank
      omega
  have hlater : ∀ t < u, ∀ f ∈ (u, source) :: rest, t < f.1 := by
    intro t ht f hf
    rcases List.mem_cons.mp hf with rfl | hf
    · exact ht
    · exact Nat.lt_of_lt_of_le ht
        ((List.pairwise_cons.mp (List.pairwise_append.mp hapart.ordered).2.1).1 f hf)
  refine h.advance (hnow.imp_right And.left) hk (.inl rfl) ?_ ?_
  · intro k c log hc hidle hk time b hnext htime
    have := hapart.not_due hc hidle hk hnext
    omega
  · intro x t e ho hxt ht
    exact hapart.ties (hlater t (by omega)) ho hxt

/-- An edit that need not wait starts its transformation at once. -/
theorem OnTime.editAt (source : String) (h : OnTime s edits (4 * u + 1) c log) :
    ∃ k, (k = 4 * u + 1 ∨ k = 4 * u + 2 ∧ Starts s (edits ++ [(u, source)]) u) ∧
      OnTime s (edits ++ [(u, source)]) k (c.editAt s u source).1
        (log ++ (c.editAt s u source).2) := by
  have hedited := h.edit source
  rw [Coordinator.editAt]
  by_cases hnow : ((c.edit s.timing u source).1.debounceAt.any (· ≤ u)) = true
  · obtain ⟨d, hd, hle⟩ : ∃ d, (c.edit s.timing u source).1.debounceAt = some d ∧ d ≤ u := by
      simpa [Option.any_eq_true] using hnow
    obtain ⟨hs, hk⟩ := (hedited.debounce d).mp hd
    obtain rfl : d = u := by omega
    refine ⟨4 * d + 2, .inr ⟨rfl, hs⟩, ?_⟩
    simpa [hnow, moment_append] using hedited.beginTransform hd
  · refine ⟨4 * u + 1, .inl rfl, ?_⟩
    simpa [hnow] using hedited

/-- **A run by the clock** leaves the log that its edits ask for. -/
theorem OnTime.play {k now : Nat} (hapart : Apart s (edits ++ rest))
    (hlimit : ∀ f ∈ rest, now ≤ f.1 ∧ f.1 ≤ limit) (hle : now ≤ limit)
    (h : OnTime s edits k c log)
    (hnow : k = 4 * now + 1 ∨ k = 4 * now + 2 ∧ Starts s edits now) :
    ∃ c', OnTime s (edits ++ rest) (4 * limit + 4) c' (log ++ play s limit now c rest) := by
  induction rest generalizing edits k now c log with
  | nil =>
    rw [List.append_nil] at hapart ⊢
    refine ⟨_, h.advance (hnow.imp_right And.left) (by omega) (.inr rfl) ?_ ?_⟩
    · intro _ _ _ _ _ _ time b _ htime
      omega
    · intro x t e ho hxt _
      exact hapart.grace x t e ho hxt
  | cons e rest ih =>
    obtain ⟨u, source⟩ := e
    obtain ⟨hu, hulimit⟩ := hlimit (u, source) List.mem_cons_self
    have hwaited := h.untilEdit hapart hnow hu
    obtain ⟨k', hk', hedited⟩ := hwaited.editAt source
    rw [List.append_cons] at hapart ⊢
    have hrest : ∀ f ∈ rest, u ≤ f.1 ∧ f.1 ≤ limit := by
      intro f hf
      refine ⟨?_, (hlimit f (List.mem_cons_of_mem _ hf)).2⟩
      exact (List.pairwise_append.mp hapart.ordered).2.2 (u, source) (by simp) f hf
    obtain ⟨c', hend⟩ := ih hapart hrest hulimit hedited hk'
    refine ⟨c', ?_⟩
    simpa [Coordinator.play] using hend

end Play

/-- **What is said when.** A transformation is announced at `t` if and only if a source that is not
blank came in one debounce window before and no edit after it up to `t`; its module comes at the
same moment, and belongs to the source that is current then. A blank source is announced when it
comes in. An error is announced at `t` if and only if a transformation was announced one time of
grace before, its source has this error and is current at `t`, and in between no transformation was
announced and no blank source came in. Nothing else is announced, and nothing twice but blank
sources that come in together. -/
theorem events_by_the_clock {limit : Nat} (h : Apart s edits)
    (hlimit : ∀ f ∈ edits, f.1 ≤ limit) :
    let events := play s limit 0 Coordinator.start edits
    (∀ t ≤ limit,
      ((t, .compiling) ∈ events ↔ Starts s edits t) ∧
      (∀ o, (t, .compiled o) ∈ events ↔
        (t, .compiling) ∈ events ∧ s.transform (sourceAt edits t) = .ok o) ∧
      ((t, .cleared) ∈ events ↔ ∃ source, (t, source) ∈ edits ∧ Text.blank source = true) ∧
      (∀ e, (t, .failed e) ∈ events ↔
        ∃ x, x + s.timing.grace = t ∧ (x, .compiling) ∈ events ∧
          s.transform (sourceAt edits x) = .error e ∧
          (∀ y, x < y → y < t → (y, .compiling) ∉ events) ∧
          (∀ f ∈ edits, x < f.1 → f.1 < t → Text.blank f.2 = false) ∧
          sourceAt edits t = sourceAt edits x)) ∧
    (∀ t event, (t, event) ∈ events → t ≤ limit) ∧
    events.Pairwise Follows := by
  intro events
  obtain ⟨c', hend⟩ : ∃ c', OnTime s ([] ++ edits) (4 * limit + 4) c' ([] ++ events) :=
    onTime_start.play h (fun f hf => ⟨Nat.zero_le _, hlimit f hf⟩) (Nat.zero_le _) (.inl rfl)
  rw [List.nil_append, List.nil_append] at hend
  have hmem : ∀ t event, (t, event) ∈ events ↔ t ≤ limit ∧ Says s edits t event := by
    intro t event
    have hphase : phase event ≤ 3 := by cases event <;> simp [phase]
    have hplace : place (t, event) = 4 * t + phase event := rfl
    rw [hend.logged.mem, hplace]
    exact and_congr_left fun _ => by omega
  have hcompiling : ∀ t ≤ limit, ((t, .compiling) ∈ events ↔ Starts s edits t) := by
    intro t ht
    rw [hmem]
    exact and_iff_right ht
  refine ⟨fun t ht => ⟨hcompiling t ht, fun o => ?_, ?_, fun e => ?_⟩,
    fun t event hevent => ((hmem t event).mp hevent).1, hend.logged.follows⟩
  · rw [hmem, hcompiling t ht]
    exact and_iff_right ht
  · rw [hmem]
    constructor
    · rintro ⟨-, ⟨_, source⟩, hf, rfl, hblank⟩
      exact ⟨source, hf, hblank⟩
    · rintro ⟨source, hf, hblank⟩
      exact ⟨ht, (t, source), hf, rfl, hblank⟩
  · rw [hmem]
    constructor
    · rintro ⟨-, x, ho, hsame⟩
      have hexpires := ho.expires
      exact ⟨x, hexpires, (hcompiling x (by omega)).mpr ho.starts, ho.fails,
        fun y hxy hyt hy => ho.alone y hxy hyt ((hcompiling y (by omega)).mp hy), ho.filled, hsame⟩
    · rintro ⟨x, hexpires, hstarts, hfails, halone, hfilled, hsame⟩
      exact ⟨ht, x,
        { starts := (hcompiling x (by omega)).mp hstarts
          fails := hfails
          expires := hexpires
          alone := fun y hxy hyt hy => halone y hxy hyt ((hcompiling y (by omega)).mpr hy)
          filled := hfilled }, hsame⟩

/-- A source comes back while its error is held back: the error is announced when its time of grace
ends, and again after the transformation that the second edit of this source asks for. -/
theorem events_by_the_clock_for_source_that_came_back :
    let e : SourceError := ⟨"no", 1, 0⟩
    let s : Schedule := ⟨⟨150, 500⟩, fun t => if t = "a" then .error e else .ok ⟨t, [], []⟩⟩
    let edits : List TimedEdit := [(0, "a"), (600, "b"), (640, "a")]
    Apart s edits ∧
      play s 2000 0 Coordinator.start edits =
        [(150, .compiling), (650, .failed e), (790, .compiling), (1290, .failed e)] ∧
      sourceAt edits 650 = sourceAt edits 150 ∧ Starts s edits 790 := by
  intro e s edits
  have hplay : play s 2000 0 Coordinator.start edits =
      [(150, .compiling), (650, .failed e), (790, .compiling), (1290, .failed e)] := by
    decide +kernel
  have ha : Text.blank "a" = false := by decide +kernel
  have hb : Text.blank "b" = false := by decide +kernel
  have hstarts : ∀ t, Starts s edits t ↔ t = 150 ∨ t = 790 := by
    intro t
    simp [edits, s, starts_cons, not_starts_nil, ha, hb]
    omega
  have hapart : Apart s edits :=
    { ordered := by simp [edits]
      debounce := by
        rintro (_ | ⟨_, _ | ⟨_, before⟩⟩) a f after hsplit - <;> simp [edits] at hsplit
        · obtain ⟨rfl, rfl, -⟩ := hsplit
          decide
        · obtain ⟨-, rfl, rfl, -⟩ := hsplit
          decide
        · have hlength := congrArg List.length hsplit.2.2
          simp at hlength
          omega
      grace := by
        intro x t error ho hxt
        have hexpires : x + 500 = t := ho.expires
        rw [hstarts]
        rcases (hstarts x).mp ho.starts with rfl | rfl
        · refine ⟨by omega, ?_⟩
          simp [edits, ← hexpires]
        · refine ⟨by omega, ?_⟩
          simp [edits, ← hexpires] }
  have hlimit : ∀ f ∈ edits, f.1 ≤ 2000 := by simp [edits]
  obtain ⟨hat, -, -⟩ := events_by_the_clock hapart hlimit
  rw [hplay] at hat
  obtain ⟨-, -, -, hfailed⟩ := hat 650 (by omega)
  obtain ⟨x, hx, -, -, -, -, hsame⟩ := (hfailed e).mp (by simp)
  obtain rfl : x = 150 := by
    have : x + 500 = 650 := hx
    omega
  exact ⟨hapart, hplay, hsame, (hat 790 (by omega)).1.mp (by simp)⟩

end Coordinator

end LivePreview
