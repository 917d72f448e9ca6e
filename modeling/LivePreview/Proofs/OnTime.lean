import LivePreview.Proofs.Settling
import Mathlib.Tactic.ByContra
/-!
# A coordinator that is on time

A coordinator by the clock hears of edits and has two timers. In closed form, some edits ask for
events: `Starts` is when a transformation starts, `sourceAt` which source is current, `Outlasts`
when the time of grace of an error ends, and `Says` which event belongs to which moment. No state of
a coordinator occurs in these definitions. The closed form is causal: what is said at a moment is
not changed by later edits (`says_append`). The events of one moment have an order, so that each
event has a `place`.

`OnTime` relates a coordinator and its log to the edits that it has heard of and to the place at
which its clock stands: the timers are those that the edits ask for and that are still to end, and
the log is what is said up to this place. The steps of a coordinator keep it: time passes while no
timer ends (`OnTime.wait`), the debounce window ends (`OnTime.beginTransform`), a transformation
ends (`OnTime.finishAll`), the time of grace ends (`OnTime.endGrace`), and an edit comes
(`OnTime.edit`).

Only `OnTime.wait` needs to know that timers end apart: a debounce window and a time of grace that
end at one moment would both be asked for, but the transformation replaces the error.
-/
namespace LivePreview
namespace Coordinator

/-- A source with the time at which it comes in. -/
abbrev TimedEdit := Nat × String

/-! ## The closed form -/

/-- The source of the last of some edits. -/
def lastSource (edits : List TimedEdit) : String := (edits.getLast?.map (·.2)).getD ""

/-- The source that is current at a time: that of the last edit up to then. -/
def sourceAt (edits : List TimedEdit) (t : Nat) : String :=
  lastSource (edits.filter fun e => e.1 ≤ t)

/-- A source that is not blank came in one debounce window ago, and no edit came after it up to
now. -/
def Starts (s : Schedule) (edits : List TimedEdit) (t : Nat) : Prop :=
  ∃ before e after, edits = before ++ e :: after ∧ Text.blank e.2 = false ∧
    e.1 + s.timing.debounce = t ∧ ∀ f ∈ after, t < f.1

/-- The error of the transformation that started at `x` is still held back when its time of grace
ends: no transformation started in between, and no blank source came in. -/
structure Outlasts (s : Schedule) (edits : List TimedEdit) (x t : Nat) (e : SourceError) :
    Prop where
  starts : Starts s edits x
  fails : s.transform (sourceAt edits x) = .error e
  expires : x + s.timing.grace = t
  alone : ∀ y, x < y → y < t → ¬ Starts s edits y
  filled : ∀ f ∈ edits, x < f.1 → f.1 < t → Text.blank f.2 = false

/-- No timer ends together with an edit or with the other timer. Only timers that are still running
count: an edit takes the place of the debounce window before it, and of all errors only the last one
is held back. -/
structure Apart (s : Schedule) (edits : List TimedEdit) : Prop where
  ordered : edits.Pairwise fun a b => a.1 ≤ b.1
  /-- The next edit does not come at the end of the debounce window. -/
  debounce : ∀ before e f after, edits = before ++ e :: f :: after → Text.blank e.2 = false →
    f.1 ≠ e.1 + s.timing.debounce
  /-- At the end of a time of grace no transformation starts, and no edit comes. -/
  grace : ∀ x t e, Outlasts s edits x t e → x < t →
    ¬ Starts s edits t ∧ ∀ f ∈ edits, f.1 ≠ t

/-- What is said at a time. -/
def Says (s : Schedule) (edits : List TimedEdit) (t : Nat) : EditEvent → Prop
  | .cleared => ∃ f ∈ edits, f.1 = t ∧ Text.blank f.2 = true
  | .compiling => Starts s edits t
  | .compiled o => Starts s edits t ∧ s.transform (sourceAt edits t) = .ok o
  | .failed e => ∃ x, Outlasts s edits x t e ∧ sourceAt edits t = sourceAt edits x

/-- The order of the events of one moment. -/
def phase : EditEvent → Nat
  | .cleared => 0
  | .compiling => 1
  | .compiled _ => 2
  | .failed _ => 3

/-- The place of an event: moments are four places apart. -/
def place (e : TimedEvent) : Nat := 4 * e.1 + phase e.2

/-- Two events that follow each other. Only blank sources that come in at one moment are announced
at one place. -/
def Follows (a b : TimedEvent) : Prop := place a < place b ∨ a = b ∧ a.2 = .cleared

theorem place_cleared {t u : Nat} {event : EditEvent} :
    place (t, event) < 4 * u + 1 ↔ t < u ∨ t = u ∧ event = .cleared := by
  cases event <;> simp [place, phase] <;> omega

theorem place_compiling {t d : Nat} {event : EditEvent} :
    place (t, event) = 4 * d + 1 ↔ t = d ∧ event = .compiling := by
  cases event <;> simp [place, phase] <;> omega

theorem place_compiled {t d : Nat} {event : EditEvent} :
    place (t, event) = 4 * d + 2 ↔ t = d ∧ ∃ o, event = .compiled o := by
  cases event <;> simp [place, phase] <;> omega

theorem place_failed {t d : Nat} {event : EditEvent} :
    place (t, event) = 4 * d + 3 ↔ t = d ∧ ∃ e, event = .failed e := by
  cases event <;> simp [place, phase] <;> omega

variable {s : Schedule} {edits rest : List TimedEdit} {c : Coordinator} {log : List TimedEvent}

/-! ## Later edits change nothing -/

theorem sourceAt_append {t : Nat} (h : ∀ f ∈ rest, t < f.1) :
    sourceAt (edits ++ rest) t = sourceAt edits t := by
  have hrest : rest.filter (fun e => e.1 ≤ t) = [] := by
    rw [List.filter_eq_nil_iff]
    intro f hf
    have := h f hf
    simpa using this
  rw [sourceAt, List.filter_append, hrest, List.append_nil, sourceAt]

theorem sourceAt_of_le {t : Nat} (h : ∀ f ∈ edits, f.1 ≤ t) :
    sourceAt edits t = lastSource edits := by
  rw [sourceAt, List.filter_eq_self.mpr (by simpa using h)]

theorem starts_append {t : Nat} (h : ∀ f ∈ rest, t < f.1) :
    Starts s (edits ++ rest) t ↔ Starts s edits t := by
  constructor
  · rintro ⟨before, e, after, hsplit, hblank, ht, hafter⟩
    rcases List.append_eq_append_iff.mp hsplit with ⟨more, -, hrest⟩ | ⟨more, hedits, hrest⟩
    · have := h e (hrest ▸ List.mem_append_right _ List.mem_cons_self)
      omega
    · cases more with
      | nil =>
        have := h e (by rw [← List.nil_append rest, ← hrest]; exact List.mem_cons_self)
        omega
      | cons x more =>
        obtain ⟨rfl, rfl⟩ := List.cons.inj hrest
        exact ⟨before, e, more, hedits, hblank, ht, fun f hf =>
          hafter f (List.mem_append_left _ hf)⟩
  · rintro ⟨before, e, after, rfl, hblank, ht, hafter⟩
    refine ⟨before, e, after ++ rest, by simp, hblank, ht, fun f hf => ?_⟩
    rcases List.mem_append.mp hf with hf | hf
    · exact hafter f hf
    · exact h f hf

theorem not_starts_nil {t : Nat} : ¬ Starts s [] t := by
  rintro ⟨before, e, after, hsplit, -⟩
  simp at hsplit

theorem starts_cons {e : TimedEdit} {t : Nat} :
    Starts s (e :: edits) t ↔
      (Text.blank e.2 = false ∧ e.1 + s.timing.debounce = t ∧ ∀ f ∈ edits, t < f.1) ∨
        Starts s edits t := by
  constructor
  · rintro ⟨before, f, after, hsplit, hblank, ht, hafter⟩
    cases before with
    | nil =>
      obtain ⟨rfl, rfl⟩ := List.cons.inj hsplit
      exact .inl ⟨hblank, ht, hafter⟩
    | cons x before =>
      obtain ⟨rfl, rfl⟩ := List.cons.inj hsplit
      exact .inr ⟨before, f, after, rfl, hblank, ht, hafter⟩
  · rintro (⟨hblank, ht, hafter⟩ | ⟨before, f, after, rfl, hblank, ht, hafter⟩)
    · exact ⟨[], e, edits, rfl, hblank, ht, hafter⟩
    · exact ⟨e :: before, f, after, rfl, hblank, ht, hafter⟩

theorem outlasts_append {x t : Nat} {e : SourceError} (h : ∀ f ∈ rest, t ≤ f.1)
    (hx : ∀ f ∈ rest, x < f.1) :
    Outlasts s (edits ++ rest) x t e ↔ Outlasts s edits x t e := by
  have hlater : ∀ y < t, ∀ f ∈ rest, y < f.1 := fun y hy f hf => Nat.lt_of_lt_of_le hy (h f hf)
  constructor
  · intro ho
    exact
      { starts := (starts_append hx).mp ho.starts
        fails := by rw [← sourceAt_append hx]; exact ho.fails
        expires := ho.expires
        alone := fun y hxy hy hs => ho.alone y hxy hy ((starts_append (hlater y hy)).mpr hs)
        filled := fun f hf => ho.filled f (List.mem_append_left _ hf) }
  · intro ho
    refine
      { starts := (starts_append hx).mpr ho.starts
        fails := by rw [sourceAt_append hx]; exact ho.fails
        expires := ho.expires
        alone := fun y hxy hy hs => ho.alone y hxy hy ((starts_append (hlater y hy)).mp hs)
        filled := fun f hf hxf hft => ?_ }
    rcases List.mem_append.mp hf with hf | hf
    · exact ho.filled f hf hxf hft
    · have := h f hf
      omega

/-- When no edit can come any more up to a time, only the last one can start a transformation
then. -/
theorem starts_iff_last {t : Nat} (h : ∀ f ∈ edits, f.1 ≤ t) :
    Starts s edits t ↔
      ∃ before e, edits = before ++ [e] ∧ Text.blank e.2 = false ∧ e.1 + s.timing.debounce = t := by
  constructor
  · rintro ⟨before, e, after, rfl, hblank, ht, hafter⟩
    cases after with
    | nil => exact ⟨before, e, rfl, hblank, ht⟩
    | cons f after =>
      have hlt := hafter f List.mem_cons_self
      have hle := h f (by simp)
      omega
  · rintro ⟨before, e, rfl, hblank, ht⟩
    exact ⟨before, e, [], rfl, hblank, ht, by simp⟩

/-- What is said up to a moment does not depend on later edits. -/
theorem says_append {t : Nat} {event : EditEvent} (h : ∀ f ∈ rest, t < f.1) :
    Says s (edits ++ rest) t event ↔ Says s edits t event := by
  cases event with
  | cleared =>
    constructor
    · rintro ⟨f, hf, rfl, hblank⟩
      rcases List.mem_append.mp hf with hf | hf
      · exact ⟨f, hf, rfl, hblank⟩
      · exact absurd (h f hf) (Nat.lt_irrefl _)
    · rintro ⟨f, hf, ht, hblank⟩
      exact ⟨f, List.mem_append_left _ hf, ht, hblank⟩
  | compiling => exact starts_append h
  | compiled o =>
    show _ ∧ _ ↔ _ ∧ _
    rw [starts_append h, sourceAt_append h]
  | failed e =>
    have hle : ∀ f ∈ rest, t ≤ f.1 := fun f hf => Nat.le_of_lt (h f hf)
    refine exists_congr fun x => ?_
    by_cases hx : x ≤ t
    · have hlater : ∀ f ∈ rest, x < f.1 := fun f hf => Nat.lt_of_le_of_lt hx (h f hf)
      rw [outlasts_append hle hlater, sourceAt_append h, sourceAt_append hlater]
    · have hnot : ∀ edits, ¬ Outlasts s edits x t e := fun edits ho => by
        have := ho.expires
        omega
      exact ⟨fun ho => absurd ho.1 (hnot _), fun ho => absurd ho.1 (hnot _)⟩

end Coordinator

end LivePreview

namespace LivePreview
namespace Coordinator

variable {s : Schedule} {edits : List TimedEdit} {c : Coordinator} {log : List TimedEvent}

/-! ## The invariant -/

/-- An error that is held back at a place: that of the transformation that started at `x`. -/
structure Pending (s : Schedule) (edits : List TimedEdit) (k : Nat) (g : HeldError) (x : Nat) :
    Prop where
  starts : Starts s edits x
  ended : 4 * x + 2 < k
  fails : s.transform (sourceAt edits x) = .error g.error
  source : g.source = sourceAt edits x
  deadline : g.deadline = x + s.timing.grace
  due : k ≤ 4 * g.deadline + 3
  alone : ∀ y, x < y → 4 * y + 2 < k → ¬ Starts s edits y
  filled : ∀ f ∈ edits, x < f.1 → Text.blank f.2 = false

/-- The log up to a place is what is said up to it. -/
structure Logged (s : Schedule) (edits : List TimedEdit) (k : Nat) (log : List TimedEvent) :
    Prop where
  mem : ∀ t event, (t, event) ∈ log ↔ place (t, event) < k ∧ Says s edits t event
  follows : log.Pairwise Follows

/-- A coordinator that has heard of some edits, and whose clock stands at a place: its state and its
log are what they have to be there. -/
structure OnTime (s : Schedule) (edits : List TimedEdit) (k : Nat) (c : Coordinator)
    (log : List TimedEvent) : Prop where
  past : ∀ f ∈ edits, 4 * f.1 < k
  current : c.current = lastSource edits
  debounce : ∀ d, c.debounceAt = some d ↔ Starts s edits d ∧ k ≤ 4 * d + 1
  held : ∀ g, c.held = some g ↔ ∃ x, Pending s edits k g x
  /-- Between its start and its end a transformation is under way. -/
  running : ∀ x, k = 4 * x + 2 → Starts s edits x → c.inFlight = [c.current]
  idle : c.inFlight ≠ [] → ∃ x, k = 4 * x + 2 ∧ Starts s edits x
  logged : Logged s edits k log

/-- Between an edit and the end of the transformation that starts with it nothing changes for an
error that is held back. -/
theorem Pending.congr {k k' x : Nat} {g : HeldError} (h : Pending s edits k g x)
    (hended : ∀ y, 4 * y + 2 < k ↔ 4 * y + 2 < k') (hdue : ∀ t, k ≤ 4 * t + 3 → k' ≤ 4 * t + 3) :
    Pending s edits k' g x :=
  { h with
    ended := (hended x).mp h.ended
    due := hdue g.deadline h.due
    alone := fun y hxy hy => h.alone y hxy ((hended y).mpr hy) }

/-- What is said at a place is added to the log. -/
theorem Logged.extend {k : Nat} {new : List TimedEvent} (h : Logged s edits k log)
    (hnew : ∀ t event, (t, event) ∈ new ↔ place (t, event) = k ∧ Says s edits t event)
    (hone : new.Pairwise Follows) : Logged s edits (k + 1) (log ++ new) where
  mem t event := by
    rw [List.mem_append, h.mem, hnew]
    constructor
    · rintro (⟨hplace, hsaid⟩ | ⟨hplace, hsaid⟩)
      · exact ⟨by omega, hsaid⟩
      · exact ⟨by omega, hsaid⟩
    · rintro ⟨hplace, hsaid⟩
      rcases Nat.lt_or_ge (place (t, event)) k with hlt | hge
      · exact .inl ⟨hlt, hsaid⟩
      · exact .inr ⟨by omega, hsaid⟩
  follows := by
    refine List.pairwise_append.mpr ⟨h.follows, hone, fun a ha b hb => .inl ?_⟩
    have hbefore := ((h.mem a.1 a.2).mp ha).1
    have hat := ((hnew b.1 b.2).mp hb).1
    exact hat ▸ hbefore

theorem onTime_start : OnTime s [] 1 Coordinator.start [] where
  past := by simp
  current := rfl
  debounce d := by simp [Coordinator.start, Starts]
  held g := by
    refine ⟨fun h => by simp [Coordinator.start] at h, ?_⟩
    rintro ⟨x, hx⟩
    have := hx.ended
    omega
  running x hk := by omega
  idle h := by simp [Coordinator.start] at h
  logged := by
    refine ⟨fun t event => ⟨by simp, ?_⟩, .nil⟩
    rintro ⟨hplace, hsaid⟩
    cases event with
    | cleared => obtain ⟨f, hf, -⟩ := hsaid; simp at hf
    | _ => simp only [place, phase] at hplace; omega

namespace OnTime

variable {k : Nat}

/-- A transformation that has yet to start waits for its timer. -/
theorem armed (h : OnTime s edits k c log) (hidle : c.inFlight = []) {x : Nat}
    (hx : Starts s edits x) (hk : k ≤ 4 * x + 2) : c.debounceAt = some x := by
  by_cases hlt : k ≤ 4 * x + 1
  · exact (h.debounce x).mpr ⟨hx, hlt⟩
  · have hrun := h.running x (by omega) hx
    rw [hidle] at hrun
    exact absurd hrun (by simp)

theorem inFlight_eq_nil (h : OnTime s edits k c log) (hk : ∀ x, k ≠ 4 * x + 2) :
    c.inFlight = [] := by
  by_contra hne
  obtain ⟨x, hx, -⟩ := h.idle hne
  exact hk x hx

theorem sourceAt_eq (h : OnTime s edits k c log) {t : Nat} (hk : k ≤ 4 * t + 4) :
    sourceAt edits t = c.current := by
  rw [h.current]
  refine sourceAt_of_le fun f hf => ?_
  have := h.past f hf
  omega

theorem debounce_congr (h : OnTime s edits k c log) {k' : Nat}
    (hk : ∀ d, k ≤ 4 * d + 1 ↔ k' ≤ 4 * d + 1) (d : Nat) :
    c.debounceAt = some d ↔ Starts s edits d ∧ k' ≤ 4 * d + 1 := by
  rw [h.debounce, hk]

/-! ### While no timer ends -/

section Wait

variable {k' : Nat} (h : OnTime s edits k c log) (hidle : c.inFlight = [])
  (hd : ∀ d, c.debounceAt = some d → k' ≤ 4 * d + 1)
  (hg : ∀ g, c.held = some g → k' ≤ 4 * g.deadline + 3)

include h hidle hd

theorem not_starts_between {x : Nat} (hx : Starts s edits x) (hk : k ≤ 4 * x + 2) :
    k' ≤ 4 * x + 1 :=
  hd x (h.armed hidle hx hk)

include hg

theorem pending_iff (hk : k ≤ k') (g : HeldError) :
    c.held = some g ↔ ∃ x, Pending s edits k' g x := by
  constructor
  · intro hheld
    obtain ⟨x, hx⟩ := (h.held g).mp hheld
    refine ⟨x, { hx with ended := ?_, due := hg g hheld, alone := fun y hxy hy hs => ?_ }⟩
    · exact Nat.lt_of_lt_of_le hx.ended hk
    · by_cases hlt : 4 * y + 2 < k
      · exact hx.alone y hxy hlt hs
      · have := h.not_starts_between hidle hd hs (by omega)
        omega
  · rintro ⟨x, hx⟩
    have hended : 4 * x + 2 < k := by
      by_contra hge
      have := h.not_starts_between hidle hd hx.starts (by omega)
      have := hx.ended
      omega
    refine (h.held g).mpr ⟨x, { hx with ended := hended, due := ?_, alone := fun y hxy hy => ?_ }⟩
    · exact Nat.le_trans hk hx.due
    · exact hx.alone y hxy (Nat.lt_of_lt_of_le hy hk)

/-- Nothing is said in between. An error that could be said has outlasted its time of grace, and was
held back before; here it matters that timers end apart. -/
theorem not_says_between
    (hties : ∀ x t e, Outlasts s edits x t e → x < t → 4 * t + 3 < k' →
      ¬ Starts s edits t ∧ ∀ f ∈ edits, f.1 ≠ t)
    {t : Nat} {event : EditEvent} (hsaid : Says s edits t event) (hk : k ≤ place (t, event)) :
    k' ≤ place (t, event) := by
  by_contra hlt
  cases event with
  | cleared =>
    obtain ⟨f, hf, rfl, -⟩ := hsaid
    have := h.past f hf
    simp only [place, phase] at hk
    omega
  | compiling =>
    simp only [place, phase] at hk hlt
    have := h.not_starts_between hidle hd hsaid (by omega)
    omega
  | compiled o =>
    simp only [place, phase] at hk hlt
    have := h.not_starts_between hidle hd hsaid.1 (by omega)
    omega
  | failed e =>
    simp only [place, phase] at hk hlt
    obtain ⟨x, ho, -⟩ := hsaid
    have hexpires := ho.expires
    have hended : 4 * x + 2 < k := by
      by_contra hge
      have := h.not_starts_between hidle hd ho.starts (by omega)
      omega
    -- at `k` the error is held back: what could have replaced it would have happened at `t`
    have hpending : Pending s edits k ⟨t, sourceAt edits x, e⟩ x :=
      { starts := ho.starts
        ended := hended
        fails := ho.fails
        source := rfl
        deadline := hexpires.symm
        due := hk
        alone := fun y hxy hy hs => by
          rcases Nat.lt_or_ge y t with hyt | hyt
          · exact ho.alone y hxy hyt hs
          · obtain rfl : y = t := by omega
            exact (hties x y e ho hxy (by omega)).1 hs
        filled := fun f hf hxf => by
          have := h.past f hf
          rcases Nat.lt_or_ge f.1 t with hft | hft
          · exact ho.filled f hf hxf hft
          · exact absurd (by omega) ((hties x t e ho (by omega) (by omega)).2 f hf) }
    have := hg _ ((h.held _).mpr ⟨x, hpending⟩)
    simp only at this
    omega

/-- **Time passes** from one place to another if no timer ends in between. -/
theorem wait (hk : k ≤ k')
    (hties : ∀ x t e, Outlasts s edits x t e → x < t → 4 * t + 3 < k' →
      ¬ Starts s edits t ∧ ∀ f ∈ edits, f.1 ≠ t) :
    OnTime s edits k' c log where
  past f hf := Nat.lt_of_lt_of_le (h.past f hf) hk
  current := h.current
  debounce d := by
    constructor
    · intro hd'
      exact ⟨((h.debounce d).mp hd').1, hd d hd'⟩
    · rintro ⟨hs, hle⟩
      exact (h.debounce d).mpr ⟨hs, Nat.le_trans hk hle⟩
  held := h.pending_iff hidle hd hg hk
  running x hx hs := by
    have := h.not_starts_between hidle hd hs (by omega)
    omega
  idle hne := absurd hidle hne
  logged := by
    refine ⟨fun t event => ?_, h.logged.follows⟩
    rw [h.logged.mem]
    constructor
    · rintro ⟨hlt, hsaid⟩
      exact ⟨Nat.lt_of_lt_of_le hlt hk, hsaid⟩
    · rintro ⟨hlt, hsaid⟩
      refine ⟨?_, hsaid⟩
      by_contra hge
      have := h.not_says_between hidle hd hg hties hsaid (Nat.le_of_not_lt hge)
      omega

end Wait

/-! ### The end of a timer -/

/-- The debounce window ends. -/
theorem beginTransform {d : Nat} (h : OnTime s edits (4 * d + 1) c log)
    (hd : c.debounceAt = some d) :
    OnTime s edits (4 * d + 2) c.beginTransform.1 (log ++ moment d c.beginTransform.2) where
  past f hf := Nat.lt_succ_of_lt (h.past f hf)
  current := h.current
  debounce e := by
    constructor
    · intro he
      cases he
    · rintro ⟨hs, hle⟩
      have he := (h.debounce e).mpr ⟨hs, by omega⟩
      rw [hd] at he
      obtain rfl := Option.some.inj he
      omega
  held g := by
    refine (h.held g).trans (exists_congr fun x => ⟨fun hx => ?_, fun hx => ?_⟩)
    · exact hx.congr (fun y => by omega) fun t => by omega
    · exact hx.congr (fun y => by omega) fun t => by omega
  running x _ _ := by
    have hnil := h.inFlight_eq_nil fun x => by omega
    simp [Coordinator.beginTransform, hnil]
  idle _ := ⟨d, rfl, ((h.debounce d).mp hd).1⟩
  logged := by
    have hs := ((h.debounce d).mp hd).1
    refine h.logged.extend (fun t event => ?_) (by simp [moment, Coordinator.beginTransform])
    simp only [moment, Coordinator.beginTransform, List.map_cons, List.map_nil, List.mem_singleton,
      Prod.mk.injEq, place_compiling]
    constructor
    · rintro ⟨rfl, rfl⟩
      exact ⟨⟨rfl, rfl⟩, hs⟩
    · exact fun hsaid => hsaid.1

/-- What a transformation leaves behind that was alone under way. -/
theorem finishAll_of_running {now : Nat} (h : c.inFlight = [c.current]) :
    c.finishAll s now =
      match s.transform c.current with
      | .ok o => ({ c with inFlight := [], held := none }, [.compiled o])
      | .error e =>
        ({ c with inFlight := [], held := some ⟨now + s.timing.grace, c.current, e⟩ }, []) := by
  rcases hv : s.transform c.current with e | o <;>
    simp [Coordinator.finishAll, h, finishSources, hv, finishTransform]

/-- The transformation ends that started at this moment. -/
theorem finishAll {d : Nat} (h : OnTime s edits (4 * d + 2) c log) (hs : Starts s edits d) :
    OnTime s edits (4 * d + 3) (c.finishAll s d).1 (log ++ moment d (c.finishAll s d).2) := by
  have hcurrent : sourceAt edits d = c.current := h.sourceAt_eq (by omega)
  have hfilled : ∀ f ∈ edits, d < f.1 → Text.blank f.2 = false := by
    intro f hf hlt
    have := h.past f hf
    omega
  -- an error that is held back now can only be that of this transformation
  have hlatest : ∀ g x, Pending s edits (4 * d + 3) g x → x = d := by
    intro g x hx
    by_contra hne
    have := hx.ended
    exact hx.alone d (by omega) (by omega) hs
  have hdebounce : ∀ e, c.debounceAt = some e ↔ Starts s edits e ∧ 4 * d + 3 ≤ 4 * e + 1 :=
    h.debounce_congr fun e => by omega
  rw [finishAll_of_running (h.running d rfl hs)]
  cases hv : s.transform c.current with
  | error e =>
    refine
      { past := fun f hf => Nat.lt_succ_of_lt (h.past f hf)
        current := h.current
        debounce := hdebounce
        held := fun g => ⟨fun hg => ?_, ?_⟩
        running := fun x hx _ => by omega
        idle := fun hne => absurd rfl hne
        logged := h.logged.extend (fun t event => ?_) .nil }
    · obtain rfl := Option.some.inj hg
      refine ⟨d, hs, by omega, by rw [hcurrent]; exact hv, hcurrent.symm, rfl, ?_,
        fun y hy hlt => by omega, hfilled⟩
      simp only
      omega
    · rintro ⟨x, hx⟩
      obtain rfl := hlatest g x hx
      obtain ⟨deadline, source, error⟩ := g
      have hfails := hx.fails
      rw [hcurrent, hv] at hfails
      obtain rfl := Except.error.inj hfails
      have hsource : source = c.current := hx.source.trans hcurrent
      have hdeadline : deadline = x + s.timing.grace := hx.deadline
      rw [hsource, hdeadline]
    · rw [place_compiled]
      refine ⟨fun hmem => absurd hmem List.not_mem_nil, ?_⟩
      rintro ⟨⟨rfl, o, rfl⟩, hsaid⟩
      have hok := hsaid.2
      rw [hcurrent, hv] at hok
      cases hok
  | ok o =>
    refine
      { past := fun f hf => Nat.lt_succ_of_lt (h.past f hf)
        current := h.current
        debounce := hdebounce
        held := fun g => ⟨(fun hg => by cases hg), ?_⟩
        running := fun x hx _ => by omega
        idle := fun hne => absurd rfl hne
        logged := h.logged.extend (fun t event => ?_) (by simp [moment]) }
    · rintro ⟨x, hx⟩
      obtain rfl := hlatest g x hx
      have hfails := hx.fails
      rw [hcurrent, hv] at hfails
      cases hfails
    · simp only [moment, List.map_cons, List.map_nil, List.mem_singleton, Prod.mk.injEq,
        place_compiled]
      constructor
      · rintro ⟨rfl, rfl⟩
        exact ⟨⟨rfl, o, rfl⟩, hs, by rw [hcurrent]; exact hv⟩
      · rintro ⟨⟨rfl, o', rfl⟩, hsaid⟩
        have hok := hsaid.2
        rw [hcurrent, hv] at hok
        obtain rfl := Except.ok.inj hok
        exact ⟨rfl, rfl⟩

/-- The time of grace ends. -/
theorem endGrace {g : HeldError} (h : OnTime s edits (4 * g.deadline + 3) c log)
    (hg : c.held = some g) :
    OnTime s edits (4 * g.deadline + 4) c.endGrace.1
      (log ++ moment g.deadline c.endGrace.2) := by
  obtain ⟨x, hx⟩ := (h.held g).mp hg
  have hdeadline := hx.deadline
  have hcurrent : sourceAt edits g.deadline = c.current := h.sourceAt_eq (by omega)
  have hsaid : ∀ e, Says s edits g.deadline (.failed e) ↔
      g.source = c.current ∧ e = g.error := by
    intro e
    constructor
    · rintro ⟨x', ho, hsame⟩
      obtain rfl : x' = x := by
        have := ho.expires
        omega
      have hfails := ho.fails
      rw [hx.fails] at hfails
      exact ⟨by rw [hx.source, ← hsame, hcurrent], (Except.error.inj hfails).symm⟩
    · rintro ⟨hsource, rfl⟩
      have houtlasts : Outlasts s edits x g.deadline g.error :=
        { starts := hx.starts
          fails := hx.fails
          expires := hdeadline.symm
          alone := fun y hxy hy => hx.alone y hxy (by omega)
          filled := fun f hf hxf _ => hx.filled f hf hxf }
      exact ⟨x, houtlasts, by rw [hcurrent, ← hx.source, hsource]⟩
  have hend : c.endGrace =
      ({ c with held := none }, if g.source = c.current then [.failed g.error] else []) := by
    simp [Coordinator.endGrace, hg]
  rw [hend]
  refine
    { past := fun f hf => Nat.lt_succ_of_lt (h.past f hf)
      current := h.current
      debounce := h.debounce_congr fun e => by omega
      held := fun g' => ⟨(fun hg' => by cases hg'), ?_⟩
      running := fun y hy _ => by omega
      idle := fun hne => absurd (h.inFlight_eq_nil fun y => by omega) hne
      logged := h.logged.extend (fun t event => ?_) ?_ }
  · -- a later error would be that of a transformation that started after this one
    rintro ⟨x', hx'⟩
    have hdue := hx'.due
    have hended := hx'.ended
    have hdeadline' := hx'.deadline
    exact absurd hx'.starts (hx.alone x' (by omega) (by omega))
  · rw [place_failed]
    constructor
    · intro hmem
      by_cases hsource : g.source = c.current
      · obtain ⟨rfl, rfl⟩ : t = g.deadline ∧ event = .failed g.error := by
          simpa [moment, hsource] using hmem
        exact ⟨⟨rfl, _, rfl⟩, (hsaid _).mpr ⟨hsource, rfl⟩⟩
      · simp [moment, hsource] at hmem
    · rintro ⟨⟨rfl, e, rfl⟩, hfailed⟩
      obtain ⟨hsource, rfl⟩ := (hsaid e).mp hfailed
      simp [moment, hsource]
  · by_cases hsource : g.source = c.current <;> simp [moment, hsource]

end OnTime

/-! ### An edit -/

section Edit

variable {u : Nat} {source : String}

/-- An error that was held back stays so when a source comes that is not blank. -/
theorem pending_append {g : HeldError} {x : Nat} (hblank : Text.blank source = false) :
    Pending s (edits ++ [(u, source)]) (4 * u + 1) g x ↔ Pending s edits (4 * u + 1) g x := by
  have hlater : ∀ t < u, ∀ f ∈ [(u, source)], t < f.1 := by
    intro t ht f hf
    rwa [List.mem_singleton.mp hf]
  constructor
  · intro hx
    have hended := hx.ended
    exact
      { hx with
        starts := (starts_append (hlater x (by omega))).mp hx.starts
        fails := by rw [← sourceAt_append (hlater x (by omega))]; exact hx.fails
        source := by rw [← sourceAt_append (hlater x (by omega))]; exact hx.source
        alone := fun y hxy hy hs =>
          hx.alone y hxy hy ((starts_append (hlater y (by omega))).mpr hs)
        filled := fun f hf => hx.filled f (List.mem_append_left _ hf) }
  · intro hx
    have hended := hx.ended
    exact
      { hx with
        starts := (starts_append (hlater x (by omega))).mpr hx.starts
        fails := by rw [sourceAt_append (hlater x (by omega))]; exact hx.fails
        source := by rw [sourceAt_append (hlater x (by omega))]; exact hx.source
        alone := fun y hxy hy hs =>
          hx.alone y hxy hy ((starts_append (hlater y (by omega))).mp hs)
        filled := fun f hf hxf => by
          rcases List.mem_append.mp hf with hf | hf
          · exact hx.filled f hf hxf
          · rwa [List.mem_singleton.mp hf] }

/-- What a source announces at once. -/
theorem Logged.edit (source : String) (h : Logged s edits (4 * u + 1) log) :
    Logged s (edits ++ [(u, source)]) (4 * u + 1)
      (log ++ moment u (if Text.blank source then [.cleared] else [])) where
  mem t event := by
    have hmoment : (t, event) ∈ moment u (if Text.blank source then [EditEvent.cleared] else []) ↔
        t = u ∧ event = .cleared ∧ Text.blank source = true := by
      cases Text.blank source <;> simp [moment]
    rw [List.mem_append, hmoment, h.mem, place_cleared]
    by_cases ht : t < u
    · have hlater : ∀ f ∈ [(u, source)], t < f.1 := by
        intro f hf
        rwa [List.mem_singleton.mp hf]
      rw [says_append hlater]
      have hne : t ≠ u := Nat.ne_of_lt ht
      simp [hne]
    · constructor
      · rintro (⟨hplace, hsaid⟩ | ⟨rfl, rfl, hblank⟩)
        · obtain ⟨rfl, rfl⟩ := hplace.resolve_left ht
          obtain ⟨f, hf, hft, hblank⟩ := hsaid
          exact ⟨.inr ⟨rfl, rfl⟩, f, List.mem_append_left _ hf, hft, hblank⟩
        · exact ⟨.inr ⟨rfl, rfl⟩, (t, source), by simp, rfl, hblank⟩
      · rintro ⟨hplace, hsaid⟩
        obtain ⟨rfl, rfl⟩ := hplace.resolve_left ht
        obtain ⟨f, hf, hft, hblank⟩ := hsaid
        rcases List.mem_append.mp hf with hf | hf
        · exact .inl ⟨.inr ⟨rfl, rfl⟩, f, hf, hft, hblank⟩
        · obtain rfl := List.mem_singleton.mp hf
          exact .inr ⟨rfl, rfl, hblank⟩
  follows := by
    refine List.pairwise_append.mpr ⟨h.follows, ?_, fun a ha b hb => ?_⟩
    · cases Text.blank source <;> simp [moment]
    · obtain rfl : b = (u, .cleared) := by
        revert hb
        cases Text.blank source <;> simp [moment]
      rcases place_cleared.mp ((h.mem a.1 a.2).mp ha).1 with hlt | ⟨hu, hcleared⟩
      · refine .inl ?_
        have hphase : phase a.2 ≤ 3 := by cases a.2 <;> simp [phase]
        show 4 * a.1 + phase a.2 < 4 * u + 0
        omega
      · exact .inr ⟨Prod.ext hu hcleared, hcleared⟩

/-- An edit comes, and no timer that was running ends at this moment. -/
theorem OnTime.edit (source : String) (h : OnTime s edits (4 * u + 1) c log) :
    OnTime s (edits ++ [(u, source)]) (4 * u + 1) (c.edit s.timing u source).1
      (log ++ moment u (c.edit s.timing u source).2) := by
  have hpast : ∀ f ∈ edits ++ [(u, source)], 4 * f.1 < 4 * u + 1 := by
    intro f hf
    rcases List.mem_append.mp hf with hf | hf
    · exact h.past f hf
    · rw [List.mem_singleton.mp hf]
      omega
  have hlast : source = lastSource (edits ++ [(u, source)]) := by
    simp [lastSource]
  -- of the starts that are still to come, the new edit leaves only its own
  have hstarts : ∀ d, u ≤ d → (Starts s (edits ++ [(u, source)]) d ↔
      Text.blank source = false ∧ u + s.timing.debounce = d) := by
    intro d hd
    rw [starts_iff_last fun f hf => by have := hpast f hf; omega]
    constructor
    · rintro ⟨before, e, hsplit, hblank, ht⟩
      obtain rfl : (u, source) = e := by
        simpa using List.append_inj_right' hsplit rfl
      exact ⟨hblank, ht⟩
    · rintro ⟨hblank, ht⟩
      exact ⟨edits, _, rfl, hblank, ht⟩
  have hlogged := h.logged.edit source
  cases hblank : Text.blank source with
  | true =>
    rw [edit_blank hblank]
    rw [hblank] at hlogged
    refine
      { past := hpast
        current := hlast
        debounce := fun d => ⟨(fun hd => by cases hd), ?_⟩
        held := fun g => ⟨(fun hg => by cases hg), ?_⟩
        running := fun x hx _ => by omega
        idle := fun hne => absurd (h.inFlight_eq_nil fun x => by omega) hne
        logged := hlogged }
    · rintro ⟨hs, hle⟩
      have := ((hstarts d (by omega)).mp hs).1
      rw [hblank] at this
      cases this
    · rintro ⟨x, hx⟩
      have hended := hx.ended
      have := hx.filled (u, source) (by simp) (by simp only; omega)
      rw [hblank] at this
      cases this
  | false =>
    rw [edit_not_blank hblank]
    rw [hblank] at hlogged
    refine
      { past := hpast
        current := hlast
        debounce := fun d => ?_
        held := fun g => ?_
        running := fun x hx _ => by omega
        idle := fun hne => absurd (h.inFlight_eq_nil fun x => by omega) hne
        logged := hlogged }
    · constructor
      · intro hd
        obtain rfl := Option.some.inj hd
        exact ⟨(hstarts _ (by omega)).mpr ⟨hblank, rfl⟩, by omega⟩
      · rintro ⟨hs, hle⟩
        rw [← ((hstarts d (by omega)).mp hs).2]
    · rw [h.held]
      exact exists_congr fun x => (pending_append hblank).symm

end Edit

end Coordinator

end LivePreview
