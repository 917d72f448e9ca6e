import LivePreview.Proofs.HostReplay
import LivePreview.Session.Router
/-!
# Styles do not reach the code

The router hands the responses of the stylesheet worker to the same host that holds back and replays
the modules. Two runs that differ in these responses only, in what they say, how many there are and
where they come in between, send the realm the same modules at the same messages, and observers see
the same status, errors, console and imports behind each of them (`code_untouched_by_styles`).

The part of a router that concerns the code is `Router.code`: nothing of the client, and of the
payloads that the host keeps only the one for the mount. A response of the worker does not change it
(`code_onStyle`), and what any other message does to it, sends to the mount and shows is determined
by it (`code_handle`).
-/
namespace LivePreview

/-- The payloads for the mount: modules and their removal. -/
def mounts (payloads : List Payload) : List Payload := payloads.filter fun p => p.slot = .mount

@[simp] theorem mounts_nil : mounts [] = [] := rfl

@[simp] theorem mounts_append (ps qs : List Payload) : mounts (ps ++ qs) = mounts ps ++ mounts qs :=
  List.filter_append ps qs

/-! ## The part that concerns the code -/

/-- What is kept for the mount, and nothing else. -/
def LatestPayloads.mountOnly (l : LatestPayloads) : LatestPayloads :=
  { empty with mount := l.mount }

namespace LatestPayloads

variable (l : LatestPayloads)

/-- A payload for another slot leaves the mount alone. -/
theorem mountOnly_record {p : Payload} (hp : p.slot ≠ .mount) :
    (l.record p).mountOnly = l.mountOnly := by
  cases p with
  | scheme | themeStyles | utilityStyles => rfl
  | code | clear => exact absurd rfl hp

theorem mountOnly_record_mountOnly (p : Payload) :
    (l.mountOnly.record p).mountOnly = (l.record p).mountOnly := by
  cases p <;> rfl

theorem mounts_replay : mounts l.replay = (l.kept .mount).toList := l.filter_replay .mount

/-- A replay holds a module exactly if one is kept for the mount. -/
theorem any_isCode_replay :
    l.replay.any Host.isCode = (l.kept .mount).toList.any Host.isCode := by
  have hstyles : ∀ slot ≠ Slot.mount, (l.kept slot).toList.any Host.isCode = false := by
    intro slot hslot
    cases h : l.kept slot with
    | none => rfl
    | some p =>
      have hp := l.slot_of_kept h
      cases p with
      | scheme | themeStyles | utilityStyles => rfl
      | code | clear => exact absurd hp.symm hslot
  simp [replay_eq, hstyles]

end LatestPayloads

/-- The host as it would be if only payloads for the mount had been posted. -/
def Host.code (h : Host) : Host := { h with latest := h.latest.mountOnly }

namespace Host

variable (h : Host)

/-- **A payload for another slot** changes nothing that concerns the code. -/
theorem code_post {p : Payload} (hp : p.slot ≠ .mount) :
    (h.post p).1.code = h.code ∧ mounts (h.post p).2 = [] := by
  refine ⟨?_, ?_⟩
  · rw [post, code, LatestPayloads.mountOnly_record _ hp]
    rfl
  · rw [post]
    split <;> simp [mounts, hp]

/-- What is posted, and what becomes of the host, does not hang on the styles that it keeps. -/
theorem code_post_code (p : Payload) :
    (h.code.post p).1.code = (h.post p).1.code ∧ (h.code.post p).2 = (h.post p).2 :=
  ⟨by simp only [post, code, LatestPayloads.mountOnly_record_mountOnly], rfl⟩

theorem code_receive_code (r : Report) :
    (h.code.receive r).1.code = (h.receive r).1.code ∧
      mounts (h.code.receive r).2 = mounts (h.receive r).2 := by
  cases r with
  | rendered | failed | logged => exact ⟨rfl, rfl⟩
  | ready =>
    -- the two replays differ in the styles, but not in the module
    have hany := h.latest.any_isCode_replay
    have hany' := h.latest.mountOnly.any_isCode_replay
    have hkept : h.latest.mountOnly.kept .mount = h.latest.kept .mount := rfl
    refine ⟨?_, ?_⟩
    · simp only [receive, code, hany, hany', hkept]
      rfl
    · simp only [receive, code, LatestPayloads.mounts_replay, hkept]

end Host

namespace Session

/-- Whether a message is anything but a response of the stylesheet worker. -/
def Message.isCommon : Message → Bool
  | .style _ => false
  | _ => true

/-- What observers see of the code: all but whether there will be a stylesheet. -/
def Snapshot.code (s : Snapshot) : Snapshot := { s with unstyled := false }

namespace Router

/-- The router as it would be without a stylesheet worker. -/
def code (r : Router) : Router :=
  { host := r.host.code
    styles := Style.StyleClient.start []
    declaredImports := r.declaredImports
    unstyled := false }

variable (r : Router)

theorem snapshot_code : r.code.snapshot = r.snapshot.code := rfl

theorem code_post {p : Payload} (hp : p.slot ≠ .mount) :
    (r.post p).1.code = r.code ∧ mounts (r.post p).2.payloads = [] := by
  obtain ⟨hhost, hmounts⟩ := r.host.code_post hp
  exact ⟨by simp only [post, code, hhost], hmounts⟩

/-- **A response of the worker** changes nothing that concerns the code. -/
theorem code_onStyle (response : StyleResponse) :
    (r.onStyle response).1.code = r.code ∧ mounts (r.onStyle response).2.payloads = [] := by
  have hslot (css : String) : (Payload.utilityStyles css).slot ≠ .mount := by simp [Payload.slot]
  rw [onStyle]
  dsimp only
  split
  · exact ⟨rfl, rfl⟩
  · exact code_post { r with styles := _ } (hslot _)
  · exact code_post { r with styles := _, unstyled := true } (hslot _)
  · exact ⟨rfl, rfl⟩
  · exact ⟨rfl, rfl⟩

/-- **Any other message** does to the part that concerns the code, and sends to the mount, what that
part alone determines. -/
theorem code_handle {m : Message} (hm : m.isCommon = true) :
    (r.code.handle m).1.code = (r.handle m).1.code ∧
      mounts (r.code.handle m).2.payloads = mounts (r.handle m).2.payloads := by
  cases m with
  | style response => simp [Message.isCommon] at hm
  | edit e => cases e <;> exact ⟨rfl, rfl⟩
  | report report =>
    obtain ⟨hhost, hmounts⟩ := r.host.code_receive_code report
    refine ⟨?_, hmounts⟩
    rw [handle, onReport]
    simp only [code, hhost, handle, onReport]
  | command c =>
    cases c with
    | reload | clearConsole => exact ⟨rfl, rfl⟩
    | setScheme value =>
      obtain ⟨hhost, hsent⟩ := r.host.code_post_code (.scheme value)
      exact ⟨rfl, congrArg mounts hsent⟩

/-! ## Runs -/

/-- A message that was handled, what was sent for it, and what observers see behind it. -/
structure Turn where
  message : Message
  sent : Sent
  seen : Snapshot

/-- What a router makes of messages. -/
def run : Router → List Message → List Turn
  | _, [] => []
  | r, m :: rest => ⟨m, (r.handle m).2, (r.handle m).1.snapshot⟩ :: run (r.handle m).1 rest

/-- All payloads that were delivered to the realm. -/
def delivered (turns : List Turn) : List Payload := turns.flatMap fun t => t.sent.payloads

/-- A message with the payloads for the mount that were sent for it, and what observers see of the
code behind it. -/
def Turn.code (t : Turn) : Message × List Payload × Snapshot :=
  (t.message, mounts t.sent.payloads, t.seen.code)

/-- What a run shows of the code at the messages that do not come from the worker. -/
def codeSeen (turns : List Turn) : List (Message × List Payload × Snapshot) :=
  (turns.filter fun t => t.message.isCommon).map Turn.code

variable {r} {r' : Router}

/-- **The responses of the worker can be left out** of a run, whatever the styles at its start. -/
theorem codeSeen_run (h : r.code = r'.code) (ms : List Message) :
    codeSeen (r.run ms) = codeSeen (r'.run (ms.filter Message.isCommon)) := by
  induction ms generalizing r r' with
  | nil => rfl
  | cons m rest ih =>
    cases hm : m.isCommon with
    | false =>
      -- the message is a response, which leaves the code as it is
      obtain ⟨response, rfl⟩ : ∃ response, m = .style response := by
        cases m <;> simp [Message.isCommon] at hm ⊢
      have hsame : (r.handle (.style response)).1.code = r'.code :=
        (r.code_onStyle response).1.trans h
      have hrest := ih hsame
      simpa [run, codeSeen, hm] using hrest
    | true =>
      obtain ⟨hr, hmounts⟩ := r.code_handle hm
      obtain ⟨hr', hmounts'⟩ := r'.code_handle hm
      rw [← h] at hr' hmounts'
      have hnext : (r.handle m).1.code = (r'.handle m).1.code := hr.symm.trans hr'
      have hseen : (r.handle m).1.snapshot.code = (r'.handle m).1.snapshot.code := by
        rw [← snapshot_code, hnext, snapshot_code]
      have hrest := ih hnext
      simp only [codeSeen] at hrest
      simp [run, codeSeen, hm, Turn.code, hseen, ← hmounts, ← hmounts', hrest]

/-- What a run sends to the mount is sent for messages that do not come from the worker. -/
theorem mounts_delivered_run (r : Router) (ms : List Message) :
    mounts (delivered (r.run ms)) = (codeSeen (r.run ms)).flatMap fun seen => seen.2.1 := by
  induction ms generalizing r with
  | nil => rfl
  | cons m rest ih =>
    have hrest := ih (r.handle m).1
    simp only [delivered, codeSeen] at hrest
    cases hm : m.isCommon with
    | false =>
      obtain ⟨response, rfl⟩ : ∃ response, m = .style response := by
        cases m <;> simp [Message.isCommon] at hm ⊢
      have hnone : mounts (r.handle (.style response)).2.payloads = [] :=
        (r.code_onStyle response).2
      simp [run, delivered, codeSeen, hm, hnone, hrest]
    | true => simp [run, delivered, codeSeen, hm, Turn.code, hrest]

/-- **Styles do not reach the code.** Take two runs of a session's router that handle the same
events of the source, reports of the realm and commands in the same order, and any responses of the
worker in between. The realm is sent the same modules and removals, and behind each message that
they have in common observers see the same status, errors, console and imports. -/
theorem code_untouched_by_styles (o : Options) {ms ns : List Message}
    (h : ms.filter Message.isCommon = ns.filter Message.isCommon) :
    mounts (delivered ((start o).run ms)) = mounts (delivered ((start o).run ns)) ∧
      codeSeen ((start o).run ms) = codeSeen ((start o).run ns) := by
  have hseen : codeSeen ((start o).run ms) = codeSeen ((start o).run ns) := by
    rw [codeSeen_run rfl ms, codeSeen_run rfl ns, h]
  exact ⟨by rw [mounts_delivered_run, mounts_delivered_run, hseen], hseen⟩

/-- In one run a stylesheet comes before the realm is loaded again, and in the other the worker
fails to start while the realm is away. -/
theorem code_untouched_by_styles_behind_reload :
    let o : Options := ⟨.default, ["p-4"], none, .dark⟩
    let shown : Message := .edit (.compiled ⟨"a", [], ["flex"]⟩)
    let ms := [.style .ready, shown, .report .ready, .style (.css ".flex\x7b\x7d" 1),
      .command .reload, .report .ready, .report .rendered]
    let ns := [shown, .report .ready, .command .reload, .style (.failed "refused" none),
      .report .ready, .report .rendered]
    ms.filter Message.isCommon = ns.filter Message.isCommon ∧
      delivered ((start o).run ms) =
        [.scheme .dark, .code "a", .utilityStyles ".flex\x7b\x7d",
          .scheme .dark, .utilityStyles ".flex\x7b\x7d", .code "a"] ∧
      delivered ((start o).run ns) =
        [.scheme .dark, .code "a", .scheme .dark, .utilityStyles "", .code "a"] ∧
      mounts (delivered ((start o).run ms)) = mounts (delivered ((start o).run ns)) ∧
      codeSeen ((start o).run ms) = codeSeen ((start o).run ns) := by
  intro o shown ms ns
  have hcommon : ms.filter Message.isCommon = ns.filter Message.isCommon := rfl
  exact ⟨hcommon, by decide +kernel, by decide +kernel, code_untouched_by_styles o hcommon⟩

end Router

end Session

end LivePreview
