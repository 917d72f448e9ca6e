import LivePreview.Host
import LivePreview.Realm.Basic
/-!
# The history of a realm

What a payload leads to, as far as others can tell: a module is reported on exactly once, and
nothing but a stylesheet changes a stylesheet (`reports_handle_code`, `reports_handle_payload`,
`utilitiesAfter_handle_payload`).

Each input that a realm handles is a `Turn`: what arrived, how the loader and the renderer would
answer at that time, and what the realm did. A `History` is any sequence of turns from the start;
the answers are free in every turn, so the loader and the renderer may have a state of their own.

`Realm.outcome` says once what a turn can come to. Everything about histories is read off from it.

## What a realm reports

Each input is reported on when it is handled, and not again: a module with what came of it, a
failure that nobody caught with its message, a line for the console with its texts, and nothing else
at all. So the reports of a realm are those that its inputs call for, one after the other
(`inputs_reported_in_order`). `Turn.due` says what an input calls for. It looks at the answers of
the loader and the renderer and not at the state of the realm.

The message in front of the page follows the same inputs: the last one that was no aside decides
whether there is one (`Turn.Alarms`).
-/
namespace LivePreview

/-- Whether a report says what came of a module. -/
def Report.isOutcome : Report → Bool
  | .rendered => true
  | .failed _ => true
  | .ready => false
  | .logged _ _ => false

namespace Realm

variable {s : Surroundings} {r : Realm}

/-! ## Reports -/

@[simp] theorem reports_nil : reports [] = [] := rfl

@[simp] theorem reports_append (a b : List Effect) : reports (a ++ b) = reports a ++ reports b :=
  List.filterMap_append

@[simp] theorem reports_cons (e : Effect) (es : List Effect) :
    reports (e :: es) =
      (match e with
        | .report o => [o]
        | _ => []) ++ reports es := by
  cases e <;> rfl

@[simp] theorem reports_releaseOf (m : Option LoadedModule) : reports (releaseOf m) = [] := by
  cases m <;> rfl

theorem reports_mount (url component : String) :
    ∃ o, o.isOutcome = true ∧ reports (r.mount s url component).2 = [o] := by
  unfold mount
  dsimp only
  split
  · exact ⟨.rendered, rfl, rfl⟩
  · exact ⟨.failed _, rfl, rfl⟩

theorem reports_adopt (m : LoadedModule) :
    ∃ o, o.isOutcome = true ∧ reports (r.adopt s m).2 = [o] := by
  unfold adopt
  dsimp only
  split
  · rename_i component _
    obtain ⟨o, ho, hr⟩ := reports_mount (s := s) (r := { r with current := some m }) m.url component
    exact ⟨o, ho, by simp [hr]⟩
  · exact ⟨.rendered, rfl, by simp⟩

/-- A module is reported on once, with what came of it. -/
theorem reports_handle_code (text : String) :
    ∃ o, o.isOutcome = true ∧ reports (r.handle s (.payload (.code text))).2 = [o] := by
  simp only [handle, run, reports_cons, List.nil_append]
  split
  · exact reports_adopt _
  · exact ⟨.failed _, rfl, rfl⟩

/-- Nothing is reported on any other payload. -/
theorem reports_handle_payload {p : Payload} (hp : Host.isCode p = false) :
    reports (r.handle s (.payload p)).2 = [] := by
  cases p with
  | code text => simp [Host.isCode] at hp
  | clear => simp [handle, clear]
  | themeStyles | utilityStyles | scheme => rfl

/-! ## The stylesheet of the utilities -/

/-- The stylesheet of the utilities behind some effects. -/
def utilitiesAfter (shown : Option String) (effects : List Effect) : Option String :=
  effects.foldl (fun shown e =>
    match e with
    | .applyStyles .utilities css => some css
    | _ => shown) shown

@[simp] theorem utilitiesAfter_nil (shown : Option String) : utilitiesAfter shown [] = shown := rfl

@[simp] theorem utilitiesAfter_cons (shown : Option String) (e : Effect) (es : List Effect) :
    utilitiesAfter shown (e :: es) =
      utilitiesAfter
        (match e with
          | .applyStyles .utilities css => some css
          | _ => shown) es := rfl

@[simp] theorem utilitiesAfter_append (shown : Option String) (a b : List Effect) :
    utilitiesAfter shown (a ++ b) = utilitiesAfter (utilitiesAfter shown a) b :=
  List.foldl_append

@[simp] theorem utilitiesAfter_releaseOf (shown : Option String) (m : Option LoadedModule) :
    utilitiesAfter shown (releaseOf m) = shown := by
  cases m <;> rfl

theorem utilitiesAfter_mount (shown : Option String) (url component : String) :
    utilitiesAfter shown (r.mount s url component).2 = shown := by
  unfold mount
  dsimp only
  split <;> rfl

theorem utilitiesAfter_adopt (shown : Option String) (m : LoadedModule) :
    utilitiesAfter shown (r.adopt s m).2 = shown := by
  unfold adopt
  dsimp only
  split
  · simp [utilitiesAfter_mount]
  · simp

/-- The stylesheet of the utilities that is in force behind a payload. -/
def utilitiesBehind (shown : Option String) : Payload → Option String
  | .utilityStyles css => some css
  | _ => shown

theorem utilitiesAfter_handle_payload (shown : Option String) (p : Payload) :
    utilitiesAfter shown (r.handle s (.payload p)).2 = utilitiesBehind shown p := by
  cases p with
  | code text =>
    simp only [handle, run, utilitiesAfter_cons]
    split
    · exact utilitiesAfter_adopt shown _
    · rfl
  | clear => simp [handle, clear, utilitiesBehind]
  | themeStyles | utilityStyles | scheme => rfl

end Realm

end LivePreview

namespace LivePreview.Realm

/-! ## What effects are about -/

namespace Effect

/-- The module that was loaded. -/
def loaded? : Effect → Option LoadedModule
  | .load m => some m
  | _ => none

/-- The URL of the module that was given up. -/
def released? : Effect → Option String
  | .release url => some url
  | _ => none

/-- What was to be rendered. -/
def request? : Effect → Option MountRequest
  | .render q => some q
  | _ => none

/-- Whether an effect has nothing to do with modules: styles, the scheme and the console. -/
def isAside : Effect → Bool
  | .applyStyles _ _ => true
  | .setScheme _ => true
  | .report (.logged _ _) => true
  | _ => false

theorem isAside_cases {e : Effect} (he : e.isAside = true) :
    (∃ slot css, e = .applyStyles slot css) ∨ (∃ value, e = .setScheme value) ∨
      ∃ method args, e = .report (.logged method args) := by
  cases e with
  | applyStyles slot css => exact .inl ⟨slot, css, rfl⟩
  | setScheme value => exact .inr (.inl ⟨value, rfl⟩)
  | report o =>
    cases o with
    | logged method args => exact .inr (.inr ⟨method, args, rfl⟩)
    | ready | rendered | failed => cases he
  | hideOverlay | showOverlay | load | release | render | unmount => cases he

end Effect

/-- The modules that were loaded. -/
def loads (effects : List Effect) : List LoadedModule := effects.filterMap Effect.loaded?

/-- The URLs of the modules that were given up. -/
def releases (effects : List Effect) : List String := effects.filterMap Effect.released?

/-- What was to be rendered. -/
def requests (effects : List Effect) : List MountRequest := effects.filterMap Effect.request?

variable {s : Surroundings} {r : Realm}

@[simp] theorem loads_nil : loads [] = [] := rfl

@[simp] theorem loads_cons (e : Effect) (es : List Effect) :
    loads (e :: es) = e.loaded?.toList ++ loads es := by
  cases e <;> rfl

@[simp] theorem loads_append (a b : List Effect) : loads (a ++ b) = loads a ++ loads b :=
  List.filterMap_append

@[simp] theorem loads_releaseOf (m : Option LoadedModule) : loads (releaseOf m) = [] := by
  cases m <;> rfl

@[simp] theorem releases_nil : releases [] = [] := rfl

@[simp] theorem releases_cons (e : Effect) (es : List Effect) :
    releases (e :: es) = e.released?.toList ++ releases es := by
  cases e <;> rfl

@[simp] theorem releases_append (a b : List Effect) :
    releases (a ++ b) = releases a ++ releases b :=
  List.filterMap_append

@[simp] theorem releases_releaseOf (m : Option LoadedModule) :
    releases (releaseOf m) = (m.map (·.url)).toList := by
  cases m <;> rfl

@[simp] theorem requests_nil : requests [] = [] := rfl

@[simp] theorem requests_cons (e : Effect) (es : List Effect) :
    requests (e :: es) = e.request?.toList ++ requests es := by
  cases e <;> rfl

@[simp] theorem requests_append (a b : List Effect) :
    requests (a ++ b) = requests a ++ requests b :=
  List.filterMap_append

@[simp] theorem requests_releaseOf (m : Option LoadedModule) : requests (releaseOf m) = [] := by
  cases m <;> rfl

theorem mem_requests {q : MountRequest} {effects : List Effect} :
    q ∈ requests effects ↔ .render q ∈ effects := by
  simp only [requests, List.mem_filterMap]
  constructor
  · rintro ⟨e, he, heq⟩
    cases e <;> cases heq
    exact he
  · exact fun hq => ⟨_, hq, rfl⟩

/-! ## What an input can come to -/

/-- What a component is to be mounted as. -/
def request (r : Realm) (url component : String) : MountRequest :=
  if r.mounted && !r.remountNext then ⟨r.rootKey, .hotSwap, url, component⟩
  else ⟨r.rootKey + 1, .remount, url, component⟩

/-- What is reported on a component that was rendered. -/
def verdict : Option Failure → Report
  | none => .rendered
  | some f => .failed f

/-- The state behind an input, and the effects. -/
inductive Outcome (s : Surroundings) (r : Realm) : Input → Realm → List Effect → Prop
  /-- Nothing happens to the module. -/
  | aside (i : Input) (e : Effect) : i ≠ .payload .clear → e.isAside = true → Outcome s r i r [e]
  | fault (f : Failure) :
      Outcome s r (.fault f) { r with remountNext := true }
        [.showOverlay f.message, .report (.failed f)]
  /-- The module could not be loaded. -/
  | refused (text : String) (e : PreviewError) : s.load text = .error e →
      Outcome s r (.payload (.code text)) { r with remountNext := true }
        [.hideOverlay, .showOverlay (loadMessage e), .report (.failed ⟨loadMessage e, none⟩)]
  /-- The module has no component. -/
  | bare (text : String) (m : LoadedModule) : s.load text = .ok m → m.component? = none →
      Outcome s r (.payload (.code text)) { r with current := some m, mounted := false }
        (.hideOverlay :: .load m :: (releaseOf r.current ++ [.unmount, .report .rendered]))
  | shown (text : String) (m : LoadedModule) (component : String) : s.load text = .ok m →
      m.component? = some component →
      Outcome s r (.payload (.code text))
        { current := some m
          rootKey := (r.request m.url component).rootKey
          mounted := true
          remountNext := (s.render (r.request m.url component)).isSome }
        (.hideOverlay :: .load m :: (releaseOf r.current ++
          [.render (r.request m.url component),
            .report (verdict (s.render (r.request m.url component)))]))
  | cleared :
      Outcome s r (.payload .clear)
        { r with mounted := false, remountNext := false, current := none }
        (.hideOverlay :: .unmount :: releaseOf r.current)

theorem mount_eq (url component : String) :
    r.mount s url component =
      ({ r with
          rootKey := (r.request url component).rootKey
          mounted := true
          remountNext := (s.render (r.request url component)).isSome },
        [.render (r.request url component),
          .report (verdict (s.render (r.request url component)))]) := by
  unfold mount request
  cases hswap : r.mounted && !r.remountNext with
  | false =>
    simp only [Bool.false_eq_true, if_false]
    cases s.render ⟨r.rootKey + 1, .remount, url, component⟩ <;> rfl
  | true =>
    simp only [if_true]
    cases s.render ⟨r.rootKey, .hotSwap, url, component⟩ <;> rfl

/-- **What handling an input can come to.** -/
theorem outcome (s : Surroundings) (r : Realm) (i : Input) :
    Outcome s r i (r.handle s i).1 (r.handle s i).2 := by
  cases i with
  | payload p =>
    cases p with
    | code text =>
      simp only [handle, run]
      cases hload : s.load text with
      | error e => exact .refused text e hload
      | ok m =>
        cases hcomponent : m.component? with
        | none => simpa only [adopt, hcomponent] using .bare text m hload hcomponent
        | some component =>
          simp only [adopt, hcomponent, mount_eq]
          exact .shown text m component hload hcomponent
    | clear => exact .cleared
    | themeStyles css => exact .aside _ _ (by simp) rfl
    | utilityStyles css => exact .aside _ _ (by simp) rfl
    | scheme value => exact .aside _ _ (by simp) rfl
  | console method args => exact .aside _ _ (by simp) rfl
  | fault f => exact .fault f

/-! ## Histories -/

/-- An input that a realm has handled. -/
structure Turn where
  surroundings : Surroundings
  input : Input
  effects : List Effect

/-- The turns that have brought a realm from the start to its state. -/
inductive History : List Turn → Realm → Prop
  | start : History [] start
  | handle {turns : List Turn} {r : Realm} (s : Surroundings) (i : Input) : History turns r →
      History (turns ++ [⟨s, i, (r.handle s i).2⟩]) (r.handle s i).1

/-- All that was done, in order. -/
def log (turns : List Turn) : List Effect := turns.flatMap (·.effects)

@[simp] theorem log_nil : log [] = [] := rfl

@[simp] theorem log_concat (turns : List Turn) (t : Turn) :
    log (turns ++ [t]) = log turns ++ t.effects := by
  simp [log]

/-- The last of some turns is the one that was added, or all of them came before. -/
theorem concat_eq_append_cons {turns before after : List Turn} {t u : Turn}
    (h : turns ++ [u] = before ++ t :: after) :
    (after = [] ∧ turns = before ∧ u = t) ∨
      ∃ rest, after = rest ++ [u] ∧ turns = before ++ t :: rest := by
  rcases List.eq_nil_or_concat after with rfl | ⟨rest, v, rfl⟩
  · obtain ⟨hturns, hu⟩ := List.append_inj' h rfl
    exact .inl ⟨rfl, hturns, by simpa using hu⟩
  · rw [List.concat_eq_append, ← List.cons_append, ← List.append_assoc] at h
    obtain ⟨hturns, hu⟩ := List.append_inj' h rfl
    obtain rfl : u = v := by simpa using hu
    exact .inr ⟨rest, List.concat_eq_append, hturns⟩

/-- Each turn of a history is the handling of its input in the state behind the turns before. -/
theorem History.split {turns before after : List Turn} {t : Turn} {r : Realm}
    (h : History turns r) (hturns : turns = before ++ t :: after) :
    ∃ r₀, History before r₀ ∧ Outcome t.surroundings r₀ t.input (r₀.handle t.surroundings t.input).1
      t.effects := by
  induction h generalizing after with
  | start => cases before <;> cases hturns
  | @handle turns r s i h ih =>
    rcases concat_eq_append_cons hturns with ⟨-, rfl, rfl⟩ | ⟨rest, -, hrest⟩
    · exact ⟨r, h, outcome s r i⟩
    · exact ih hrest

end LivePreview.Realm

namespace LivePreview.Realm

/-! ## What an input calls for -/

namespace Turn

/-- What is to be reported on an input. A module is reported on once, with the failure of the loader
or else that of the renderer, if there is one. -/
def due (t : Turn) : List Report :=
  match t.input with
  | .payload (.code text) =>
    match t.surroundings.load text with
    | .error e => [.failed ⟨loadMessage e, none⟩]
    | .ok _ => [verdict ((requests t.effects).findSome? t.surroundings.render)]
  | .payload _ => []
  | .console method args => [.logged method (args.map ConsoleArgument.stringify)]
  | .fault f => [.failed f]

/-- Whether an input has a say on the message in front of the page. -/
def decides (t : Turn) : Bool :=
  match t.input with
  | .payload (.code _) => true
  | .payload .clear => true
  | .fault _ => true
  | _ => false

/-- An input that calls for a message in front of the page. A component that fails shows its failure
in its own place, so it is not among them. -/
inductive Alarms : Turn → String → Prop
  | fault (s : Surroundings) (f : Failure) (effects : List Effect) :
      Alarms ⟨s, .fault f, effects⟩ f.message
  | refused (s : Surroundings) (text : String) (e : PreviewError) (effects : List Effect) :
      s.load text = .error e → Alarms ⟨s, .payload (.code text), effects⟩ (loadMessage e)

end Turn

/-- The message in front of the page behind some effects. -/
def overlayAfter (shown : Option String) (effects : List Effect) : Option String :=
  effects.foldl (fun shown e =>
    match e with
    | .showOverlay message => some message
    | .hideOverlay => none
    | _ => shown) shown

variable {s : Surroundings} {r : Realm} {i : Input} {turns : List Turn} {shown : Option String}

@[simp] theorem overlayAfter_nil : overlayAfter shown [] = shown := rfl

@[simp] theorem overlayAfter_cons (e : Effect) (es : List Effect) :
    overlayAfter shown (e :: es) =
      overlayAfter
        (match e with
          | .showOverlay message => some message
          | .hideOverlay => none
          | _ => shown) es := rfl

@[simp] theorem overlayAfter_append (a b : List Effect) :
    overlayAfter shown (a ++ b) = overlayAfter (overlayAfter shown a) b :=
  List.foldl_append

@[simp] theorem overlayAfter_releaseOf (m : Option LoadedModule) :
    overlayAfter shown (releaseOf m) = shown := by
  cases m <;> rfl

/-! ## One input -/

theorem reports_handle (s : Surroundings) (r : Realm) (i : Input) :
    reports (r.handle s i).2 = Turn.due ⟨s, i, (r.handle s i).2⟩ := by
  cases i with
  | payload p =>
    cases p with
    | code text =>
      cases hload : s.load text with
      | error e => simp [Turn.due, handle, run, hload, showFault]
      | ok m =>
        cases hcomponent : m.component? with
        | none =>
          simp [Turn.due, handle, run, hload, adopt, hcomponent, Effect.request?, verdict]
        | some component =>
          cases hrender : s.render (r.request m.url component) <;>
            simp [Turn.due, handle, run, hload, adopt, hcomponent, Effect.request?, mount_eq]
    | clear => simp [Turn.due, handle, clear]
    | themeStyles | utilityStyles | scheme => rfl
  | console | fault => rfl

theorem overlayAfter_mount (url component : String) :
    overlayAfter shown (r.mount s url component).2 = shown := by
  rw [mount_eq]
  rfl

theorem overlayAfter_adopt (m : LoadedModule) :
    overlayAfter shown (r.adopt s m).2 = shown := by
  unfold adopt
  dsimp only
  split
  · simp [overlayAfter_mount]
  · simp

theorem overlayAfter_handle_of_not_decides
    (h : Turn.decides ⟨s, i, (r.handle s i).2⟩ = false) :
    overlayAfter shown (r.handle s i).2 = shown := by
  cases i with
  | payload p =>
    cases p with
    | code | clear => cases h
    | themeStyles | utilityStyles | scheme => rfl
  | console => rfl
  | fault => cases h

theorem overlayAfter_handle_eq_some {message : String}
    (h : Turn.decides ⟨s, i, (r.handle s i).2⟩ = true) :
    overlayAfter shown (r.handle s i).2 = some message ↔
      Turn.Alarms ⟨s, i, (r.handle s i).2⟩ message := by
  cases i with
  | payload p =>
    cases p with
    | code text =>
      simp only [handle, run, overlayAfter_cons]
      cases hload : s.load text with
      | error e =>
        constructor
        · intro hmessage
          cases hmessage
          exact .refused s text e _ hload
        · rintro (_ | ⟨_, _, e', _, hload'⟩)
          cases hload.symm.trans hload'
          rfl
      | ok m =>
        rw [overlayAfter_adopt]
        constructor
        · intro hmessage
          cases hmessage
        · rintro (_ | ⟨_, _, e, _, hload'⟩)
          cases hload.symm.trans hload'
    | clear =>
      simp only [handle, clear, overlayAfter_cons, overlayAfter_releaseOf]
      constructor <;> intro hmessage <;> cases hmessage
    | themeStyles | utilityStyles | scheme => cases h
  | console => cases h
  | fault f =>
    constructor
    · intro hmessage
      cases hmessage
      exact .fault s f _
    · intro hmessage
      cases hmessage
      rfl

/-! ## All inputs -/

/-- What a realm in some state does when inputs arrive one after the other, each with the answers
that the loader and the renderer give at that time. -/
def turnsFrom (r : Realm) : List (Surroundings × Input) → List Turn
  | [] => []
  | (s, i) :: rest => ⟨s, i, (r.handle s i).2⟩ :: turnsFrom (r.handle s i).1 rest

theorem History.append_turnsFrom (h : History turns r) (inputs : List (Surroundings × Input)) :
    ∃ r', History (turns ++ turnsFrom r inputs) r' := by
  induction inputs generalizing turns r with
  | nil => exact ⟨r, by simpa [turnsFrom] using h⟩
  | cons step rest ih =>
    obtain ⟨s, i⟩ := step
    simpa [turnsFrom] using ih (h.handle s i)

theorem History.reports_log (h : History turns r) :
    reports (log turns) = turns.flatMap Turn.due := by
  induction h with
  | start => rfl
  | handle s i h ih =>
    rw [log_concat, reports_append, ih, List.flatMap_append, List.flatMap_singleton, reports_handle]

/-- The last input that has a say decides on the message; without any there is none. -/
theorem History.overlay (h : History turns r) {message : String} :
    overlayAfter none (log turns) = some message ↔
      ∃ t, (turns.filter Turn.decides).getLast? = some t ∧ t.Alarms message := by
  induction h with
  | start => simp
  | @handle turns r s i h ih =>
    rw [log_concat, overlayAfter_append, List.filter_append]
    cases hdecides : Turn.decides ⟨s, i, (r.handle s i).2⟩ with
    | false => simp [hdecides, overlayAfter_handle_of_not_decides hdecides, ih]
    | true => simp [hdecides, overlayAfter_handle_eq_some hdecides]

/-- **Each input is reported on once and in order.** Whatever arrives, and however the loader and
the renderer answer each time: the reports of a realm are, one input after the other, those that the
input calls for. That is one report for a module, which is a failure exactly if the module could not
be loaded or its component failed, and has the message of that; one for a failure that nobody
caught; one with all texts for a line on the console; and none for anything else. There is a message
in front of the page exactly if the last one among modules, clearings and failures was a failure or
a module that could not be loaded, and then it is the message of that one. -/
theorem inputs_reported_in_order (inputs : List (Surroundings × Input)) :
    reports (log (turnsFrom start inputs)) = (turnsFrom start inputs).flatMap Turn.due ∧
      ∀ message, overlayAfter none (log (turnsFrom start inputs)) = some message ↔
        ∃ t, ((turnsFrom start inputs).filter Turn.decides).getLast? = some t ∧
          t.Alarms message := by
  obtain ⟨r, h⟩ := History.start.append_turnsFrom inputs
  rw [List.nil_append] at h
  exact ⟨h.reports_log, fun message => h.overlay⟩

end LivePreview.Realm
