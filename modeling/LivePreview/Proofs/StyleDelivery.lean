import LivePreview.Proofs.Network
import LivePreview.Proofs.Ordered
/-!
# No stylesheet is lost

Between a source and the realm that shows it stand two memories, that of the client for the set it
asked for last and that of the worker for the set it built last, and two gates that hold things back
until the worker and the realm are ready. For the utilities of a source to arrive, each of them must
have kept the last word.

On the way to the worker (`Supplied`) a set is held until the worker is ready, and from then on the
responses on their way and the answers to the requests on their way are numbered one after another,
the last of them for the set that was demanded last. On the way to the realm (`Delivered`) the last
stylesheet in the queue, or the one that is shown if there is none, is the one that the host posted
last; this holds for a realm whose announcement the host has handled, and the replay establishes it.
-/
namespace LivePreview
namespace Style

variable {c : Compiler} {w : Worker} {client : StyleClient}

/-! ## The compiler and the worker -/

/-- A stylesheet depends on the set of the candidates only. -/
theorem Compiler.build_congr {a b : List String} (h : Text.ordered a = Text.ordered b) :
    c.build a = c.build b := by
  have hrules : c.rules a = c.rules b := by rw [Compiler.rules, Compiler.rules, h]
  rw [Compiler.build, Compiler.build, hrules]

/-- The worker has the compiler once it is loaded, and what it keeps was built. -/
structure Worker.Sound (c : Compiler) (w : Worker) : Prop where
  compiler : w.starting = false → w.compiler = some fun key => .done (c.build key)
  cache : ∀ key css, w.cache = some (key, css) → css = c.build key

theorem Worker.sound_start : Worker.start.Sound c := by
  constructor <;> simp [Worker.start]

theorem Worker.cached?_eq_some {key : List String} {css : String} (h : w.cached? key = some css) :
    w.cache = some (key, css) := by
  simp only [cached?, Option.map_eq_some_iff, Option.filter_eq_some_iff, beq_iff_eq] at h
  obtain ⟨⟨k, t⟩, ⟨hc, hk⟩, ht⟩ := h
  rw [hc]
  exact congrArg some (Prod.ext hk ht)

/-- A worker that has its compiler answers with the stylesheet, kept or built. -/
theorem Worker.Sound.answer (hw : w.Sound c) (hs : w.starting = false) (r : StyleRequest) :
    (w.answer r).2 = .css (c.build r.candidates) r.id ∧ (w.answer r).1.Sound c ∧
      (w.answer r).1.starting = false := by
  have hbuild : c.build (Text.ordered r.candidates) = c.build r.candidates :=
    Compiler.build_congr (Text.ordered_ordered _)
  rw [Worker.answer, if_neg (by simp [hs]), hw.compiler hs]
  cases hk : w.cached? (Text.ordered r.candidates) with
  | some css =>
    have hcss := hw.cache _ _ (Worker.cached?_eq_some hk)
    exact ⟨by simp [hcss, hbuild], hw, hs⟩
  | none =>
    refine ⟨by simp [Worker.build, hbuild], ⟨fun _ => hw.compiler hs, ?_⟩, hs⟩
    intro key css h
    simp only [Worker.build, Option.some.injEq, Prod.mk.injEq] at h
    obtain ⟨rfl, rfl⟩ := h
    rfl

/-! ## The client -/

theorem StyleClient.issue_eq (client : StyleClient) (key : List String) :
    client.issue key =
      ({ client with
          lastSent := some key
          sequence := ⟨client.sequence.issued + 1, client.sequence.applied⟩ },
        ⟨key, client.sequence.issued + 1⟩) := rfl

/-- The requests that an event sends. -/
def StyleEvent.asked : StyleEvent → List StyleRequest
  | .send request => [request]
  | .apply _ => []
  | .unstyled => []
  | .failed _ => []
  | .ignored => []

/-- The stylesheets that an event has posted. -/
def StyleEvent.posted : StyleEvent → List String
  | .apply css => [css]
  | .unstyled => [""]
  | .send _ => []
  | .failed _ => []
  | .ignored => []

/-- Responses for some stylesheets, numbered one after another. -/
def numbered : Nat → List String → List StyleResponse
  | _, [] => []
  | k, css :: rest => .css css (k + 1) :: numbered (k + 1) rest

theorem numbered_append (k : Nat) (a : List String) (css : String) :
    numbered k (a ++ [css]) = numbered k a ++ [.css css (k + a.length + 1)] := by
  induction a generalizing k with
  | nil => rfl
  | cons t a ih =>
    simp only [List.cons_append, numbered, ih, List.length_cons]
    congr 4
    omega

/-- Every response of these is a stylesheet. -/
theorem mem_numbered {k : Nat} {a : List String} {r : StyleResponse} (h : r ∈ numbered k a) :
    ∃ css id, r = .css css id := by
  induction a generalizing k with
  | nil => cases h
  | cons t a ih =>
    rcases List.mem_cons.mp h with rfl | h
    · exact ⟨t, k + 1, rfl⟩
    · exact ih h

end Style

namespace Session.Net

open Style

variable {c : Compiler} {o : Options} {n n' : Net} {baseline : List String}
  {client : StyleClient} {worker : Worker} {requests : List StyleRequest}
  {responses : List StyleResponse} {wanted wanted' : Option (List String)}

/-! ## On the way to the worker -/

/-- The worker is not known to be ready: the set that is wanted is held, and nothing was asked
for. -/
structure Held (client : StyleClient) (worker : Worker) (requests : List StyleRequest)
    (responses : List StyleResponse) (wanted : Option (List String)) : Prop where
  ready : client.ready = false
  held : client.held = wanted.map Text.ordered
  lastSent : client.lastSent = none
  sequence : client.sequence = RequestSequence.start
  current : client.current = none
  requests : requests = []
  responses : responses = if worker.starting then [] else [.ready]

/-- The responses on their way, and the answers to the requests on their way. -/
def answers (c : Compiler) (requests : List StyleRequest) (responses : List StyleResponse) :
    List StyleResponse :=
  responses ++ requests.map fun r => .css (c.build r.candidates) r.id

/-- The worker is known to be ready: the answers that are due are numbered one after another, and
behind the last of them the stylesheet is the one that is wanted. -/
structure Flowing (c : Compiler) (client : StyleClient) (worker : Worker)
    (requests : List StyleRequest) (responses : List StyleResponse)
    (wanted : Option (List String)) : Prop where
  ready : client.ready = true
  started : worker.starting = false
  lastSent : client.lastSent = wanted.map Text.ordered
  due : ∃ texts, answers c requests responses = numbered client.sequence.applied texts ∧
    client.sequence.applied + texts.length = client.sequence.issued ∧
    texts.getLast?.or client.current = wanted.map c.build

/-- The client and the worker agree on the set that is wanted. -/
structure Supplied (c : Compiler) (baseline : List String) (client : StyleClient) (worker : Worker)
    (requests : List StyleRequest) (responses : List StyleResponse)
    (wanted : Option (List String)) : Prop where
  baseline : client.baseline = Text.ordered baseline
  available : client.unavailable = false
  sound : worker.Sound c
  phase : Held client worker requests responses wanted ∨
    Flowing c client worker requests responses wanted

theorem supplied_start (baseline : List String) :
    Supplied c baseline (StyleClient.start baseline) Worker.start [] [] none where
  baseline := rfl
  available := rfl
  sound := Worker.sound_start
  phase := Or.inl ⟨rfl, rfl, rfl, rfl, rfl, rfl, rfl⟩

/-- The worker loads its compiler, which happens before anything is asked for. -/
theorem Supplied.load (hs : Supplied c baseline client worker requests responses wanted)
    (hw : worker.starting = true) :
    Supplied c baseline client (worker.load (total c)).1 requests
      (responses ++ [(worker.load (total c)).2]) wanted where
  baseline := hs.baseline
  available := hs.available
  sound := ⟨fun _ => rfl, hs.sound.cache⟩
  phase := by
    rcases hs.phase with hh | hf
    · have hr := hh.responses
      rw [if_pos hw] at hr
      exact Or.inl { hh with responses := by simp [hr, Worker.load, total] }
    · rw [hf.started] at hw
      cases hw

/-- The worker answers a request, as it was bound to. -/
theorem Supplied.answer {r : StyleRequest} {rest : List StyleRequest}
    (hs : Supplied c baseline client worker (r :: rest) responses wanted) :
    Supplied c baseline client (worker.answer r).1 rest (responses ++ [(worker.answer r).2])
      wanted := by
  rcases hs.phase with hh | hf
  · exact absurd hh.requests (List.cons_ne_nil r rest)
  · obtain ⟨hresponse, hsound, hstarted⟩ := hs.sound.answer hf.started r
    refine ⟨hs.baseline, hs.available, hsound, Or.inr { hf with started := hstarted, due := ?_ }⟩
    have hanswers : answers c rest (responses ++ [(worker.answer r).2]) =
        answers c (r :: rest) responses := by
      simp [answers, hresponse]
    rw [hanswers]
    exact hf.due

/-- What is asked for becomes the last set that is wanted. -/
theorem Flowing.issue {key : List String}
    (hf : Flowing c client worker requests responses wanted) (hk : wanted' = some key) :
    Flowing c (client.issue (Text.ordered key)).1 worker
      (requests ++ [(client.issue (Text.ordered key)).2]) responses wanted' := by
  obtain ⟨texts, hanswers, hcount, -⟩ := hf.due
  rw [StyleClient.issue_eq, hk]
  refine ⟨hf.ready, hf.started, rfl, texts ++ [c.build key], ?_, ?_, ?_⟩
  · have hbuild : c.build (Text.ordered key) = c.build key :=
      Compiler.build_congr (Text.ordered_ordered key)
    rw [numbered_append, ← hanswers, hcount]
    simp [answers, hbuild]
  · simp only [List.length_append, List.length_singleton]
    omega
  · simp

/-- A response on its way is the announcement of the worker or a stylesheet. -/
theorem Supplied.mem_responses {r : StyleResponse}
    (hs : Supplied c baseline client worker requests responses wanted) (hr : r ∈ responses) :
    (r = .ready ∧ Held client worker requests responses wanted) ∨
      ((∃ css id, r = .css css id) ∧ Flowing c client worker requests responses wanted) := by
  rcases hs.phase with hh | hf
  · have hready : r ∈ (if worker.starting then [] else [StyleResponse.ready]) := hh.responses ▸ hr
    split at hready
    · cases hready
    · exact Or.inl ⟨List.mem_singleton.mp hready, hh⟩
  · obtain ⟨texts, hanswers, -⟩ := hf.due
    have hanswer : r ∈ answers c requests responses := List.mem_append_left _ hr
    rw [hanswers] at hanswer
    exact Or.inr ⟨mem_numbered hanswer, hf⟩

/-- The client hears that the worker is ready, and asks for what it held. -/
theorem Supplied.hear_ready {rest : List StyleResponse}
    (hs : Supplied c baseline client worker requests (.ready :: rest) wanted) :
    Supplied c baseline (client.respond .ready).1 worker
        (requests ++ (client.respond .ready).2.asked) rest wanted ∧
      (client.respond .ready).1.current = client.current ∧
      (client.respond .ready).2.posted = [] := by
  obtain ⟨-, hh⟩ | ⟨⟨css, id, h⟩, -⟩ := hs.mem_responses (List.mem_cons_self ..)
  · have hresponses := hh.responses
    split at hresponses
    · cases hresponses
    · rename_i hstarting
      obtain rfl : rest = [] := (List.cons.inj hresponses).2
      obtain rfl : requests = [] := hh.requests
      -- nothing is on its way between the two
      have hopen : Flowing c { client with ready := true, held := none } worker [] [] none :=
        ⟨rfl, Bool.eq_false_iff.mpr hstarting, hh.lastSent, [], by
          simp [answers, numbered, hh.sequence, hh.current, RequestSequence.start]⟩
      cases wanted with
      | none =>
        have hrespond : client.respond .ready =
            ({ client with ready := true, held := none }, .ignored) := by
          simp [StyleClient.respond, StyleClient.onReady, hh.held]
        rw [hrespond]
        exact ⟨⟨hs.baseline, hs.available, hs.sound, Or.inr hopen⟩, rfl, rfl⟩
      | some key =>
        have hrespond : client.respond .ready =
            ((StyleClient.issue { client with ready := true, held := none } (Text.ordered key)).1,
              .send (StyleClient.issue { client with ready := true, held := none }
                (Text.ordered key)).2) := by
          simp [StyleClient.respond, StyleClient.onReady, hh.held, hh.lastSent]
        rw [hrespond]
        exact ⟨⟨hs.baseline, hs.available, hs.sound, Or.inr (hopen.issue rfl)⟩, rfl, rfl⟩
  · cases h

/-- The client hears of a stylesheet, which is newer than the one before. -/
theorem Supplied.hear_css {css : String} {id : Nat} {rest : List StyleResponse}
    (hs : Supplied c baseline client worker requests (.css css id :: rest) wanted) :
    Supplied c baseline (client.respond (.css css id)).1 worker
        (requests ++ (client.respond (.css css id)).2.asked) rest wanted ∧
      (client.respond (.css css id)).1.current = some css ∧
      (client.respond (.css css id)).2.posted = [css] := by
  obtain ⟨h, -⟩ | ⟨-, hf⟩ := hs.mem_responses (List.mem_cons_self ..)
  · cases h
  · obtain ⟨texts, hanswers, hcount, hlast⟩ := hf.due
    cases texts with
    | nil => cases hanswers
    | cons text texts =>
      simp only [answers, List.cons_append, numbered, List.cons.injEq, StyleResponse.css.injEq]
        at hanswers
      obtain ⟨⟨rfl, rfl⟩, hanswers⟩ := hanswers
      have haccept : client.sequence.accept? (client.sequence.applied + 1) =
          some ⟨client.sequence.issued, client.sequence.applied + 1⟩ := by
        simp only [List.length_cons] at hcount
        rw [RequestSequence.accept?, if_neg (by omega)]
      have hrespond : client.respond (.css css (client.sequence.applied + 1)) =
          ({ client with
              sequence := ⟨client.sequence.issued, client.sequence.applied + 1⟩
              current := some css }, .apply css) := by
        simp [StyleClient.respond, haccept]
      rw [hrespond]
      refine ⟨⟨hs.baseline, hs.available, hs.sound, Or.inr ?_⟩, rfl, rfl⟩
      refine ⟨hf.ready, hf.started, hf.lastSent, texts, ?_, ?_, ?_⟩
      · simpa [answers, StyleEvent.asked] using hanswers
      · simp only [List.length_cons] at hcount
        show client.sequence.applied + 1 + texts.length = client.sequence.issued
        omega
      · rw [← hlast, List.getLast?_cons]
        cases texts.getLast? <;> rfl

theorem demand?_eq_none {output : Transpiled} (h : baseline ++ output.classCandidates = []) :
    demand? baseline (.compiled output) = none := by
  simp [demand?, h]

theorem demand?_eq_some {output : Transpiled} (h : baseline ++ output.classCandidates ≠ []) :
    demand? baseline (.compiled output) = some (baseline ++ output.classCandidates) := by
  simp only [demand?, List.isEmpty_iff, if_neg h]

/-- The client is asked for the utilities of a source. -/
theorem Supplied.request (hs : Supplied c baseline client worker requests responses wanted)
    (output : Transpiled) :
    Supplied c baseline (client.request output.classCandidates).1 worker
        (requests ++ (client.request output.classCandidates).2.toList) responses
        ((demand? baseline (.compiled output)).or wanted) ∧
      (client.request output.classCandidates).1.current = client.current := by
  have hmerged : client.merged output.classCandidates =
      Text.ordered (baseline ++ output.classCandidates) := by
    rw [StyleClient.merged, hs.baseline, Text.ordered_ordered_append]
  unfold StyleClient.request
  simp only [hmerged, hs.available, Bool.false_or]
  by_cases hempty : baseline ++ output.classCandidates = []
  · rw [demand?_eq_none hempty, if_pos (by simp [Text.ordered_eq_nil_iff.mpr hempty])]
    exact ⟨by simpa using hs, rfl⟩
  · have hkey : (Text.ordered (baseline ++ output.classCandidates)).isEmpty = false := by
      rw [← Bool.not_eq_true, List.isEmpty_iff, Text.ordered_eq_nil_iff]
      exact hempty
    rw [demand?_eq_some hempty, Option.some_or, hkey, Bool.false_or]
    rcases hs.phase with hh | hf
    · rw [if_neg (by simp [hh.lastSent]), if_pos (by simp [hh.ready])]
      refine ⟨⟨hs.baseline, rfl, hs.sound, Or.inl ?_⟩, rfl⟩
      exact { hh with held := rfl, requests := by simp [hh.requests] }
    · split
      · rename_i hsame
        have hsame : wanted.map Text.ordered =
            some (Text.ordered (baseline ++ output.classCandidates)) := by
          rw [← hf.lastSent]
          exact eq_of_beq hsame
        obtain ⟨key, rfl, hkey⟩ := Option.map_eq_some_iff.mp hsame
        refine ⟨⟨hs.baseline, hs.available, hs.sound, Or.inr ?_⟩, rfl⟩
        -- the set that was asked for last is this one
        have hbuild : c.build (baseline ++ output.classCandidates) = c.build key :=
          Compiler.build_congr hkey.symm
        exact {
          ready := hf.ready
          started := hf.started
          lastSent := hf.lastSent.trans hsame
          due := by simpa [hbuild] using hf.due }
      · rw [if_neg (by simp [hf.ready])]
        exact ⟨⟨hs.baseline, hs.available, hs.sound, Or.inr (hf.issue rfl)⟩, rfl⟩

/-! ## On the way to the realm -/

/-- The stylesheets of the utilities among some payloads. -/
def styles (payloads : List Payload) : List String :=
  payloads.filterMap fun
    | .utilityStyles css => some css
    | _ => none

@[simp] theorem styles_nil : styles [] = [] := rfl

@[simp] theorem styles_append (a b : List Payload) : styles (a ++ b) = styles a ++ styles b :=
  List.filterMap_append

theorem styles_cons (p : Payload) (rest : List Payload) :
    styles (p :: rest) = styles [p] ++ styles rest :=
  styles_append [p] rest

/-- The realm shows a payload's stylesheet, if it has one. -/
theorem utilitiesBehind_eq (shown : Option String) (p : Payload) :
    Realm.utilitiesBehind shown p = (styles [p]).getLast?.or shown := by
  cases p <;> rfl

/-- A host that may or may not regard the realm as ready, the stylesheet that it has posted last,
and what the realm shows or is about to show. -/
structure Delivered (ready : Bool) (latest : Option String) (listening : Bool)
    (utilities : Option String) (payloads : List Payload) (reports : List Report) : Prop where
  shown : ready = true → listening = true → Report.ready ∉ reports →
    (styles payloads).getLast?.or utilities = latest
  nothing : latest = none → styles payloads = [] ∧ utilities = none

variable {ready listening : Bool} {latest utilities : Option String} {payloads sent : List Payload}
  {reports : List Report} {posted : List String}

/-- The host posts some stylesheets, which are sent unless it waits for the realm. -/
theorem Delivered.post (hd : Delivered ready latest listening utilities payloads reports)
    (hsent : styles sent = if ready then posted else []) :
    Delivered ready (posted.getLast?.or latest) listening utilities (payloads ++ sent)
      reports where
  shown hr hl hn := by
    rw [← hd.shown hr hl hn, styles_append, hsent, if_pos hr, List.getLast?_append,
      Option.or_assoc]
  nothing h := by
    obtain ⟨hposted, hlatest⟩ := Option.or_eq_none_iff.mp h
    rw [List.getLast?_eq_none_iff] at hposted
    subst hposted
    exact ⟨by simp [hsent, (hd.nothing hlatest).1], (hd.nothing hlatest).2⟩

/-- Nothing changes by reports that are not announcements. -/
theorem Delivered.of_reports (hd : Delivered ready latest listening utilities payloads reports)
    {reports' : List Report} (h : Report.ready ∈ reports → Report.ready ∈ reports') :
    Delivered ready latest listening utilities payloads reports' where
  shown hr hl hn := hd.shown hr hl (mt h hn)
  nothing := hd.nothing

/-- The host hears an announcement, and the realm is brought up to date. -/
theorem Delivered.replay {rest : List Report}
    (hd : Delivered ready latest listening utilities payloads (.ready :: rest))
    (hsent : styles sent = latest.toList) :
    Delivered true latest listening utilities (payloads ++ sent) rest where
  shown _ _ _ := by
    cases latest with
    | none => simp [hsent, hd.nothing rfl]
    | some css => simp [hsent]
  nothing h := by
    subst h
    simp [hsent, hd.nothing rfl]

/-- The host does not regard the realm as ready any more. -/
theorem Delivered.unready (hd : Delivered ready latest listening utilities payloads reports) :
    Delivered false latest listening utilities payloads reports where
  shown h := nomatch h
  nothing := hd.nothing

/-- The realm handles a payload. -/
theorem Delivered.perform {p : Payload} {rest : List Payload}
    (hd : Delivered ready latest listening utilities (p :: rest) reports) :
    Delivered ready latest listening (Realm.utilitiesBehind utilities p) rest reports where
  shown hr hl hn := by
    rw [← hd.shown hr hl hn, styles_cons, List.getLast?_append, Option.or_assoc,
      utilitiesBehind_eq]
  nothing h := by
    obtain ⟨hstyles, hutilities⟩ := hd.nothing h
    rw [styles_cons, List.append_eq_nil_iff] at hstyles
    exact ⟨hstyles.2, by simp [utilitiesBehind_eq, hstyles.1, hutilities]⟩

/-- A realm that has not announced itself misses a payload. -/
theorem Delivered.miss {p : Payload} {rest : List Payload}
    (hd : Delivered ready latest false utilities (p :: rest) reports) :
    Delivered ready latest false utilities rest reports where
  shown _ h := nomatch h
  nothing h := by
    obtain ⟨hstyles, hutilities⟩ := hd.nothing h
    rw [styles_cons, List.append_eq_nil_iff] at hstyles
    exact ⟨hstyles.2, hutilities⟩

/-- A new realm shows nothing, and has not announced itself. -/
theorem Delivered.replace (hd : Delivered ready latest listening utilities payloads reports) :
    Delivered ready latest false none payloads reports where
  shown _ h := nomatch h
  nothing h := ⟨(hd.nothing h).1, rfl⟩

/-- The realm announces itself. -/
theorem Delivered.announce (hd : Delivered ready latest listening utilities payloads reports) :
    Delivered ready latest true utilities payloads (reports ++ [.ready]) where
  shown _ _ hn := absurd (List.mem_append_right _ (List.mem_singleton_self _)) hn
  nothing := hd.nothing

/-! ## The router -/

/-- A host has posted some stylesheets, and sent them if it regards the realm as ready. -/
structure Posts (h h' : Host) (sent : List Payload) (posted : List String) : Prop where
  ready : h'.realmReady = h.realmReady
  latest : h'.latest.utilityStyles = posted.getLast?.or h.latest.utilityStyles
  sent : styles sent = if h.realmReady then posted else []

theorem posts_post (h : Host) (p : Payload) : Posts h (h.post p).1 (h.post p).2 (styles [p]) where
  ready := rfl
  latest := by cases p <;> rfl
  sent := by
    unfold Host.post
    split <;> rfl

theorem posts_edit (r : Router) (e : EditEvent) :
    Posts r.host (r.handle (.edit e)).1.host (r.handle (.edit e)).2.payloads [] := by
  cases e with
  | compiling | failed => exact ⟨rfl, rfl, by simp [Router.handle, Router.onEdit, Sent.nothing]⟩
  | compiled output =>
    have hp := posts_post
      { r.host with
        compiling := false, compileError := none, failure := none, awaitingRender := true }
      (.code output.code)
    exact ⟨hp.ready, hp.latest, hp.sent⟩
  | cleared =>
    have hp := posts_post
      { r.host with
        compiling := false, awaitingRender := false, rendered := false, compileError := none
        failure := none }
      .clear
    exact ⟨hp.ready, hp.latest, hp.sent⟩

theorem posts_style (r : Router) (response : StyleResponse) :
    Posts r.host (r.handle (.style response)).1.host (r.handle (.style response)).2.payloads
      (r.styles.respond response).2.posted := by
  simp only [Router.handle, Router.onStyle]
  cases h : (r.styles.respond response).2 with
  | send | failed | ignored => exact ⟨rfl, rfl, by simp [StyleEvent.posted, Sent.nothing]⟩
  | apply css => exact posts_post r.host (.utilityStyles css)
  | unstyled => exact posts_post r.host (.utilityStyles "")

theorem styles_style (r : Router) (response : StyleResponse) :
    (r.handle (.style response)).1.styles = (r.styles.respond response).1 ∧
      (r.handle (.style response)).2.requests = (r.styles.respond response).2.asked := by
  simp only [Router.handle, Router.onStyle]
  cases h : (r.styles.respond response).2 <;> exact ⟨rfl, rfl⟩

theorem styles_replay (l : LatestPayloads) : styles l.replay = l.utilityStyles.toList := by
  obtain ⟨scheme, themeStyles, utilityStyles, mount⟩ := l
  have hmount : styles (mount.map LatestPayloads.mountPayload).toList = [] := by
    rcases mount with - | ⟨- | -⟩ <;> rfl
  rw [LatestPayloads.replay, styles_append, hmount]
  cases scheme <;> cases themeStyles <;> cases utilityStyles <;> rfl

theorem posts_report (r : Router) {report : Report} (h : report ≠ .ready) :
    Posts r.host (r.handle (.report report)).1.host (r.handle (.report report)).2.payloads [] := by
  cases report with
  | ready => exact absurd rfl h
  | rendered | failed | logged =>
    exact ⟨rfl, rfl, by simp [Router.handle, Router.onReport, Host.receive, Sent.ofPayloads]⟩

/-! ## Both ways -/

/-- What holds in every state that is reached. -/
structure Intact (c : Compiler) (baseline : List String) (n : Net) : Prop where
  supplied : Supplied c baseline n.router.styles n.worker n.requests n.responses
    (demanded baseline n.handled)
  delivered : Delivered n.router.host.realmReady n.router.host.latest.utilityStyles n.listening
    n.utilities n.payloads n.reports
  /-- The client's stylesheet is the one that the host has posted last. -/
  current : n.router.host.latest.utilityStyles = n.router.styles.current

theorem intact_start (o : Options) : Intact c o.baseline (start o) := by
  obtain ⟨config, baseline, themeStyles, scheme⟩ := o
  have hdelivered : Delivered false none false none [] [] := by constructor <;> simp
  cases themeStyles <;> exact ⟨supplied_start baseline, hdelivered, rfl⟩

theorem demanded_append (baseline : List String) (events : List EditEvent) (e : EditEvent) :
    demanded baseline (events ++ [e]) = (demand? baseline e).or (demanded baseline events) := by
  rw [demanded, List.filterMap_append, List.getLast?_append]
  cases h : demand? baseline e <;> simp [h, demanded]

/-- The router handles a message that has nothing posted but some stylesheets. -/
theorem Intact.delivered_route (hi : Intact c baseline n) {m : Message} {posted : List String}
    (hp : Posts n.router.host (n.router.handle m).1.host (n.router.handle m).2.payloads posted) :
    Delivered (n.router.handle m).1.host.realmReady
      (n.router.handle m).1.host.latest.utilityStyles n.listening n.utilities
      (n.payloads ++ (n.router.handle m).2.payloads) n.reports := by
  rw [hp.ready, hp.latest]
  exact hi.delivered.post hp.sent

/-- A message that has no stylesheet posted leaves everything as it was. -/
theorem Intact.route (hi : Intact c baseline n) {m : Message}
    (hp : Posts n.router.host (n.router.handle m).1.host (n.router.handle m).2.payloads [])
    (hstyles : (n.router.handle m).1.styles = n.router.styles)
    (hrequests : (n.router.handle m).2.requests = []) : Intact c baseline (n.route m) where
  supplied := by
    simp only [Net.route, hstyles, hrequests, List.append_nil]
    exact hi.supplied
  delivered := hi.delivered_route hp
  current := by
    simp only [Net.route, hstyles, hp.latest]
    exact hi.current

/-- An event of the coordinator; only a new source asks for a stylesheet. -/
theorem Intact.event (hi : Intact c baseline n) (e : EditEvent) :
    Intact c baseline ({ n with handled := n.handled ++ [e] }.route (.edit e)) := by
  have hp := posts_edit n.router e
  refine ⟨?_, hi.delivered_route hp, ?_⟩
  · simp only [Net.route, demanded_append]
    cases e with
    | compiling | failed | cleared =>
      simpa [Router.handle, Router.onEdit, Sent.nothing, Sent.ofPayloads, demand?] using hi.supplied
    | compiled output => exact (hi.supplied.request output).1
  · refine hp.latest.trans (hi.current.trans ?_)
    cases e with
    | compiling | failed | cleared => rfl
    | compiled output => exact (hi.supplied.request output).2.symm

/-- A command; a realm that is loaded again is not regarded as ready. -/
theorem Intact.command (hi : Intact c baseline n) (d : Command) :
    Intact c baseline (n.route (.command d)) := by
  cases d with
  | setScheme value => exact hi.route (posts_post n.router.host (.scheme value)) rfl rfl
  | clearConsole =>
    have hp : Posts n.router.host n.router.host.clearConsole Sent.nothing.payloads [] :=
      ⟨rfl, rfl, by simp [Sent.nothing]⟩
    exact hi.route hp rfl rfl
  | reload =>
    have hdelivered := hi.delivered.unready
    refine ⟨?_, ?_, hi.current⟩
    · simpa [Net.route, Router.handle, Router.onCommand, Sent.nothing] using hi.supplied
    · simpa [Net.route, Router.handle, Router.onCommand, Sent.nothing, Host.reload] using hdelivered

/-- A response of the worker. -/
theorem Intact.response (hi : Intact c baseline n) {r : StyleResponse} {rest : List StyleResponse}
    (hq : n.responses = r :: rest) :
    Intact c baseline ({ n with responses := rest }.route (.style r)) := by
  have hsupplied := hi.supplied
  rw [hq] at hsupplied
  have hp := posts_style n.router r
  obtain ⟨hstyles, hrequests⟩ := styles_style n.router r
  obtain ⟨rfl, -⟩ | ⟨⟨css, id, rfl⟩, -⟩ := hsupplied.mem_responses (List.mem_cons_self ..)
  · obtain ⟨hnext, hcurrent, hposted⟩ := hsupplied.hear_ready
    refine ⟨?_, hi.delivered_route hp, ?_⟩
    · simpa only [Net.route, hstyles, hrequests] using hnext
    · rw [Net.route, hp.latest, hposted, hi.current]
      exact hcurrent.symm.trans (congrArg StyleClient.current hstyles.symm)
  · obtain ⟨hnext, hcurrent, hposted⟩ := hsupplied.hear_css
    refine ⟨?_, hi.delivered_route hp, ?_⟩
    · simpa only [Net.route, hstyles, hrequests] using hnext
    · rw [Net.route, hp.latest, hposted]
      exact hcurrent.symm.trans (congrArg StyleClient.current hstyles.symm)

/-- A report of the realm; its announcement has everything replayed. -/
theorem Intact.report (hi : Intact c baseline n) {r : Report} {rest : List Report}
    (hq : n.reports = r :: rest) :
    Intact c baseline ({ n with reports := rest }.route (.report r)) := by
  have hdelivered := hi.delivered
  rw [hq] at hdelivered
  by_cases hr : r = .ready
  · subst hr
    refine ⟨?_, hdelivered.replay (styles_replay _), hi.current⟩
    simpa [Net.route, Router.handle, Router.onReport, Sent.ofPayloads] using hi.supplied
  · have hrest : Report.ready ∈ r :: rest → Report.ready ∈ rest := by
      intro h
      rcases List.mem_cons.mp h with h | h
      · exact absurd h.symm hr
      · exact h
    have hi' : Intact c baseline { n with reports := rest } :=
      ⟨hi.supplied, hdelivered.of_reports hrest, hi.current⟩
    exact hi'.route (posts_report n.router hr) rfl rfl

/-- The realm does something; its reports do not count here. -/
theorem Intact.act (hi : Intact c baseline n) {moved : Realm × List Realm.Effect}
    {rest : List Payload}
    (hd : Delivered n.router.host.realmReady n.router.host.latest.utilityStyles n.listening
      (Realm.utilitiesAfter n.utilities moved.2) rest n.reports) :
    Intact c baseline ({ n with payloads := rest }.act moved) :=
  ⟨hi.supplied, hd.of_reports (List.mem_append_left _), hi.current⟩

theorem intact_step (hi : Intact c baseline n) (hs : Step c n n') : Intact c baseline n' := by
  cases hs with
  | emit | order => exact ⟨hi.supplied, hi.delivered, hi.current⟩
  | event e rest hq =>
    have hi' : Intact c baseline { n with events := rest } :=
      ⟨hi.supplied, hi.delivered, hi.current⟩
    exact hi'.event e
  | command d rest hq =>
    have hi' : Intact c baseline { n with commands := rest } :=
      ⟨hi.supplied, hi.delivered, hi.current⟩
    exact hi'.command d
  | response r rest hq => exact hi.response hq
  | report r rest hq => exact hi.report hq
  | load hw => exact ⟨hi.supplied.load hw, hi.delivered, hi.current⟩
  | request r rest hq =>
    have hsupplied := hi.supplied
    rw [hq] at hsupplied
    exact ⟨hsupplied.answer, hi.delivered, hi.current⟩
  | payload s p rest hq =>
    have hdelivered := hi.delivered
    rw [hq] at hdelivered
    refine hi.act ?_
    rw [Realm.utilitiesAfter_handle_payload]
    exact hdelivered.perform
  | miss p rest hl hq =>
    have hdelivered := hi.delivered
    rw [hq, hl] at hdelivered
    refine ⟨hi.supplied, ?_, hi.current⟩
    rw [hl]
    exact hdelivered.miss
  | console s method args => exact hi.act hi.delivered
  | fault s f => exact hi.act hi.delivered
  | replace => exact ⟨hi.supplied, hi.delivered.replace, hi.current⟩
  | announce => exact ⟨hi.supplied, hi.delivered.announce, hi.current⟩

/-- The invariant holds in every state that is reached. -/
theorem Reachable.intact (hn : Reachable c o n) : Intact c o.baseline n := by
  induction hn with
  | start => exact intact_start o
  | step _ hs ih => exact intact_step ih hs

/-- **No stylesheet is lost.** No request is refused because the worker has no compiler. Once the
worker has loaded its compiler, the host has heard of the realm and nothing is on its way, the realm
shows the stylesheet of the candidates that were demanded last, and none if none were demanded. -/
theorem utilities_of_quiet (hn : Reachable c o n) :
    (∀ id, Worker.notInitialized id ∉ n.responses) ∧
      (Quiet n → n.worker.starting = false → n.listening = true →
        n.router.host.realmReady = true →
        n.utilities = (demanded o.baseline n.handled).map c.build) := by
  have hi := hn.intact
  constructor
  · intro id hr
    obtain ⟨h, -⟩ | ⟨⟨css, id, h⟩, -⟩ := hi.supplied.mem_responses hr <;> cases h
  · intro hq hw hl hr
    have hshown : n.utilities = n.router.host.latest.utilityStyles := by
      simpa [hq.payloads] using hi.delivered.shown hr hl (by simp [hq.reports])
    rw [hshown, hi.current]
    rcases hi.supplied.phase with hh | hf
    · -- the announcement of the worker would be on its way
      have hresponses := hh.responses
      rw [hq.responses, if_neg (by simp [hw])] at hresponses
      cases hresponses
    · obtain ⟨texts, hanswers, -, hlast⟩ := hf.due
      cases texts with
      | nil => exact hlast
      | cons text texts => simp [answers, hq.responses, hq.requests, numbered] at hanswers

/-- A source that comes before the worker is ready, and whose stylesheet is built while the realm is
loaded again: the new realm shows it in the end. -/
theorem utilities_of_quiet_of_reload :
    ∃ n, Reachable ⟨"", ⟨[], []⟩, "dark"⟩ ⟨Config.default, [], none, .light⟩ n ∧ Quiet n ∧
      n.handled = [.compiled ⟨"a", [], ["flex"]⟩] ∧
      n.utilities = some (Compiler.build ⟨"", ⟨[], []⟩, "dark"⟩ ["flex"]) := by
  obtain ⟨n, hn, hq, hw, hl, hr, hhandled⟩ :
      ∃ n, Reachable ⟨"", ⟨[], []⟩, "dark"⟩ ⟨Config.default, [], none, .light⟩ n ∧ Quiet n ∧
        n.worker.starting = false ∧ n.listening = true ∧ n.router.host.realmReady = true ∧
        n.handled = [.compiled ⟨"a", [], ["flex"]⟩] := by
    refine ⟨_, .step (.step (.step (.step (.step (.step (.step (.step (.step (.step (.step (.step
      (.step .start (.emit (.compiled ⟨"a", [], ["flex"]⟩))) (.event _ _ rfl)) .replace)
      (.load rfl)) (.response _ _ rfl)) (.request _ _ rfl)) (.response _ _ rfl)) .announce)
      (.report _ _ rfl)) (.payload ⟨fun code => .ok ⟨code, []⟩, fun _ => none⟩ _ _ rfl))
      (.payload ⟨fun code => .ok ⟨code, []⟩, fun _ => none⟩ _ _ rfl))
      (.payload ⟨fun code => .ok ⟨code, []⟩, fun _ => none⟩ _ _ rfl)) (.report _ _ rfl), ?_⟩
    exact ⟨⟨rfl, rfl, rfl, rfl, rfl, rfl⟩, rfl, rfl, rfl, rfl⟩
  refine ⟨n, hn, hq, hhandled, ?_⟩
  rw [(utilities_of_quiet hn).2 hq hw hl hr, hhandled]
  rfl

end Session.Net
end LivePreview
