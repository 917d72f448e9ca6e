import LivePreview.Snippet
/-!
# The history of a snippet store

Names are drawn at random, and when one is in use another one is drawn. So a store only grows: what
was stored under a name stays there as it is, no other name finds anything, and whatever is stored
is within the limits (`stored_snippets_kept`). The invariant is `Kept`: the store holds what the
answers so far say and nothing else.
-/
namespace LivePreview

/-! ## Limits -/

namespace SnippetLimits

/-- A snippet that may be stored: what is shared has code, and no part is too large. -/
structure Admits (l : SnippetLimits) (s : NewSnippet) : Prop where
  shared : s.source = .share → Text.blank s.code = false
  code : s.code.utf8ByteSize ≤ l.code
  globalCss : ∀ css, s.globalCss = some css → css.utf8ByteSize ≤ l.globalCss

/-- Nothing else is refused. -/
theorem refusal?_eq_none {l : SnippetLimits} {s : NewSnippet} :
    l.refusal? s = none ↔ l.Admits s := by
  unfold refusal?
  constructor
  · intro h
    split at h
    · cases h
    · rename_i hshared
      split at h
      · cases h
      · rename_i hcode
        split at h
        · cases h
        · rename_i hcss
          refine ⟨fun hs => ?_, by omega, fun css heq => ?_⟩
          · simpa [hs] using hshared
          · simpa [heq] using hcss
  · rintro ⟨hshared, hcode, hcss⟩
    rw [if_neg (fun h => by simp [hshared h.1] at h), if_neg (by omega), if_neg]
    cases heq : s.globalCss with
    | none => simp
    | some css => simpa using hcss css heq

end SnippetLimits

namespace SnippetStore

/-! ## Calls -/

/-- A snippet that is to be stored, and the names that are drawn for it one after the other. -/
structure Call where
  snippet : NewSnippet
  names : List String
deriving DecidableEq

/-- What a call answers, and the store behind it. As long as each name that was drawn is in use,
there is no answer. -/
def call? (s : SnippetStore) (c : Call) : Option (Except PreviewError String × SnippetStore) :=
  match s.create c.names c.snippet with
  | .error e => some (.error e, s)
  | .ok stored => stored.map fun r => (.ok r.2, r.1)

/-- Snippets that were to be stored, with the answers, in the order of the calls. -/
abbrev Log := List (NewSnippet × Except PreviewError String)

/-- What was stored according to a log, with its names. -/
def Log.stored (log : Log) : List (String × NewSnippet) :=
  log.filterMap fun e => e.2.toOption.map (·, e.1)

/-- The names that are in use according to a log. -/
def Log.names (log : Log) : List String := log.stored.map Prod.fst

/-- Calls one after the other on a new store: their log, and the store behind them. -/
inductive History (limits : SnippetLimits) : Log → SnippetStore → Prop where
  | start : History limits [] (empty limits)
  | concat {log : Log} {s s' : SnippetStore} {c : Call} {answer : Except PreviewError String}
      (h : History limits log s) (hcall : s.call? c = some (answer, s')) :
      History limits (log ++ [(c.snippet, answer)]) s'

variable {limits : SnippetLimits} {log : Log} {s s' : SnippetStore} {c : Call} {id : String}
  {snippet : NewSnippet} {answer : Except PreviewError String} {e : PreviewError}

@[simp] theorem Log.stored_refused :
    Log.stored (log ++ [(snippet, .error e)]) = log.stored := by
  simp [Log.stored, Except.toOption]

@[simp] theorem Log.stored_accepted :
    Log.stored (log ++ [(snippet, .ok id)]) = log.stored ++ [(id, snippet)] := by
  simp [Log.stored, Except.toOption]

/-! ## Names -/

theorem find?_eq_none : s.find? id = none ↔ id ∉ s.snippets.map Prod.fst := by
  rw [find?, Option.map_eq_none_iff, List.find?_eq_none]
  constructor
  · intro h hid
    obtain ⟨e, he, rfl⟩ := List.mem_map.mp hid
    exact h e he (by simp)
  · intro h e he
    have hne : e.1 ≠ id := fun heq => h (heq ▸ List.mem_map_of_mem he)
    simpa using hne

/-- Of names that are different each finds its snippet. -/
theorem find?_of_mem (hnames : (s.snippets.map Prod.fst).Nodup) (h : (id, snippet) ∈ s.snippets) :
    s.find? id = some snippet := by
  obtain ⟨front, rest, heq⟩ := List.append_of_mem h
  have hfront : ∀ e ∈ front, e.1 ≠ id := by
    rw [heq, List.map_append, List.map_cons] at hnames
    intro e he
    exact (List.nodup_append.mp hnames).2.2 e.1 (List.mem_map_of_mem he) id List.mem_cons_self
  have hnone : front.find? (fun e => e.1 = id) = none :=
    List.find?_eq_none.mpr fun e he => by simpa using hfront e he
  simp [find?, heq, List.find?_append, hnone]

/-- The first name that is not in use is taken. -/
theorem freshId?_eq_some {names : List String} (h : s.freshId? names = some id) :
    s.find? id = none ∧
      ∃ front rest, names = front ++ id :: rest ∧ ∀ name ∈ front, s.find? name ≠ none := by
  obtain ⟨hid, front, rest, hnames, hfront⟩ := List.find?_eq_some_iff_append.mp h
  refine ⟨Option.isNone_iff_eq_none.mp hid, front, rest, hnames, fun name hname hnone => ?_⟩
  have hused := hfront name hname
  simp [hnone] at hused

/-! ## One call -/

/-- What is refused leaves the store as it is. Anything else is added under a name that is not in
use. -/
theorem call?_cases (h : s.call? c = some (answer, s')) :
    (∃ e, s.limits.refusal? c.snippet = some e ∧ answer = .error e ∧ s' = s) ∨
      ∃ id, s.limits.refusal? c.snippet = none ∧ s.freshId? c.names = some id ∧
        answer = .ok id ∧ s' = { s with snippets := s.snippets ++ [(id, c.snippet)] } := by
  cases hrefusal : s.limits.refusal? c.snippet with
  | some e =>
    have hanswer : .error e = answer ∧ s = s' := by simpa [call?, create, hrefusal] using h
    exact .inl ⟨e, rfl, hanswer.1.symm, hanswer.2.symm⟩
  | none =>
    cases hfresh : s.freshId? c.names with
    | none => simp [call?, create, hrefusal, hfresh] at h
    | some id =>
      have hanswer : .ok id = answer ∧
          { s with snippets := s.snippets ++ [(id, c.snippet)] } = s' := by
        simpa [call?, create, hrefusal, hfresh] using h
      exact .inr ⟨id, rfl, rfl, hanswer.1.symm, hanswer.2.symm⟩

/-- What is within the limits is stored as soon as a name is drawn that is not in use. -/
theorem exists_create {names : List String} (h : s.limits.Admits snippet)
    (hname : ∃ name ∈ names, s.find? name = none) :
    ∃ s' id, s.create names snippet = .ok (some (s', id)) := by
  obtain ⟨name, hmem, hunused⟩ := hname
  rw [create, SnippetLimits.refusal?_eq_none.mpr h]
  cases hfresh : s.freshId? names with
  | some id => exact ⟨_, id, rfl⟩
  | none =>
    have hused := List.find?_eq_none.mp hfresh name hmem
    simp [hunused] at hused

/-- A call is answered if it is refused or draws a name that is not in use. -/
theorem exists_call?
    (h : s.limits.refusal? c.snippet = none → ∃ name ∈ c.names, s.find? name = none) :
    ∃ answer s', s.call? c = some (answer, s') := by
  cases hrefusal : s.limits.refusal? c.snippet with
  | some e => exact ⟨.error e, s, by simp [call?, create, hrefusal]⟩
  | none =>
    obtain ⟨s', id, hcreate⟩ :=
      exists_create (SnippetLimits.refusal?_eq_none.mp hrefusal) (h hrefusal)
    exact ⟨.ok id, s', by simp [call?, hcreate]⟩

/-! ## All calls -/

/-- What the answers so far say about the store. -/
structure Kept (limits : SnippetLimits) (log : Log) (s : SnippetStore) : Prop where
  limits_eq : s.limits = limits
  snippets : s.snippets = log.stored
  /-- No name was answered twice. -/
  names : log.names.Nodup
  admits : ∀ e ∈ log.stored, limits.Admits e.2

theorem kept_empty (limits : SnippetLimits) : Kept limits [] (empty limits) :=
  ⟨rfl, rfl, List.nodup_nil, fun _ he => absurd he List.not_mem_nil⟩

theorem Kept.find?_eq_none (h : Kept limits log s) : s.find? id = none ↔ id ∉ log.names := by
  rw [SnippetStore.find?_eq_none, h.snippets, Log.names]

theorem Kept.concat (h : Kept limits log s) (hcall : s.call? c = some (answer, s')) :
    Kept limits (log ++ [(c.snippet, answer)]) s' := by
  obtain ⟨e, -, rfl, rfl⟩ | ⟨id, hrefusal, hfresh, rfl, rfl⟩ := call?_cases hcall
  · exact ⟨h.limits_eq, by simpa using h.snippets, by simpa [Log.names] using h.names,
      by simpa using h.admits⟩
  · rw [h.limits_eq, SnippetLimits.refusal?_eq_none] at hrefusal
    have hunused : id ∉ log.names := h.find?_eq_none.mp (freshId?_eq_some hfresh).1
    refine ⟨h.limits_eq, by simp [h.snippets], ?_, ?_⟩
    · rw [Log.names, Log.stored_accepted, List.map_append]
      refine List.nodup_append.mpr ⟨h.names, List.pairwise_singleton _ _, fun a ha b hb heq => ?_⟩
      obtain rfl : b = id := by simpa using hb
      exact hunused (heq ▸ ha)
    · intro e he
      rw [Log.stored_accepted, List.mem_append, List.mem_singleton] at he
      rcases he with he | rfl
      · exact h.admits e he
      · exact hrefusal

theorem History.kept (h : History limits log s) : Kept limits log s := by
  induction h with
  | start => exact kept_empty limits
  | concat _ hcall ih => exact ih.concat hcall

/-- What a call does behind a log. A refusal leaves the store as it is, and only the limits decide
on it. A snippet that is stored gets the first name that is not in use, and is added. -/
def Answers (limits : SnippetLimits) (log : Log) (c : Call) (s s' : SnippetStore) :
    Except PreviewError String → Prop
  | .error e => limits.refusal? c.snippet = some e ∧ s' = s
  | .ok id =>
    limits.Admits c.snippet ∧ s'.snippets = s.snippets ++ [(id, c.snippet)] ∧ id ∉ log.names ∧
      ∃ front rest, c.names = front ++ id :: rest ∧ ∀ name ∈ front, name ∈ log.names

theorem Kept.answers (h : Kept limits log s) (hcall : s.call? c = some (answer, s')) :
    Answers limits log c s s' answer := by
  obtain ⟨e, hrefusal, rfl, rfl⟩ | ⟨id, hrefusal, hfresh, rfl, rfl⟩ := call?_cases hcall
  · exact ⟨h.limits_eq ▸ hrefusal, rfl⟩
  · rw [h.limits_eq, SnippetLimits.refusal?_eq_none] at hrefusal
    obtain ⟨hunused, front, rest, hnames, hfront⟩ := freshId?_eq_some hfresh
    refine ⟨hrefusal, rfl, h.find?_eq_none.mp hunused, front, rest, hnames, fun name hname => ?_⟩
    exact Decidable.byContradiction fun hnot => hfront name hname (h.find?_eq_none.mpr hnot)

/-- **A store is append-only.** Behind any calls each snippet that was stored is found under its
name, no name was given twice, no other name finds anything, the store has as many snippets as were
stored, and all of them are within the limits. Each further call for which a name is drawn that is
not in use is answered: what is not within the limits is refused and leaves the store as it is, and
anything else is added under the first such name. -/
theorem stored_snippets_kept (h : History limits log s) :
    log.names.Nodup ∧ s.snippets.length = log.stored.length ∧
      (∀ id snippet, (id, snippet) ∈ log.stored → s.get id = .ok snippet) ∧
      (∀ id, id ∉ log.names → s.get id = .error (.snippetNotFound id)) ∧
      (∀ e ∈ s.snippets, limits.Admits e.2) ∧
      ∀ c : Call, (limits.Admits c.snippet → ∃ name ∈ c.names, name ∉ log.names) →
        ∃ answer s', s.call? c = some (answer, s') ∧
          History limits (log ++ [(c.snippet, answer)]) s' ∧ Answers limits log c s s' answer := by
  have hkept := h.kept
  have hnames : (s.snippets.map Prod.fst).Nodup := hkept.snippets ▸ hkept.names
  refine ⟨hkept.names, by rw [hkept.snippets], fun id snippet hmem => ?_, fun id hid => ?_,
    hkept.snippets ▸ hkept.admits, fun c hc => ?_⟩
  · rw [get, find?_of_mem hnames (hkept.snippets ▸ hmem)]
  · rw [get, hkept.find?_eq_none.mpr hid]
  · rw [← SnippetLimits.refusal?_eq_none, ← hkept.limits_eq] at hc
    obtain ⟨answer, s', hcall⟩ := exists_call? fun hrefusal => by
      obtain ⟨name, hname, hunused⟩ := hc hrefusal
      exact ⟨name, hname, hkept.find?_eq_none.mpr hunused⟩
    exact ⟨answer, s', hcall, h.concat hcall, hkept.answers hcall⟩

/-- Two snippets are stored, the second one under the third name that is drawn for it, and what
comes between them is blank. -/
theorem stored_snippets_kept_after_collision :
    ∃ log s, History ⟨32, 16⟩ log s ∧ log.names = ["A", "B"] ∧
      s.get "A" = .ok ⟨"a", none, .share⟩ ∧ s.get "B" = .ok ⟨"", some "b", .opened⟩ ∧
      s.get "C" = .error (.snippetNotFound "C") ∧ s.snippets.length = 2 := by
  have hfirst : (empty ⟨32, 16⟩).call? ⟨⟨"a", none, .share⟩, ["A"]⟩ =
      some (.ok "A", ⟨⟨32, 16⟩, [("A", ⟨"a", none, .share⟩)]⟩) := rfl
  have hblank : SnippetStore.call? ⟨⟨32, 16⟩, [("A", ⟨"a", none, .share⟩)]⟩
      ⟨⟨" \n", none, .share⟩, ["B"]⟩ =
        some (.error (.missing "Code"), ⟨⟨32, 16⟩, [("A", ⟨"a", none, .share⟩)]⟩) := rfl
  have hsecond : SnippetStore.call? ⟨⟨32, 16⟩, [("A", ⟨"a", none, .share⟩)]⟩
      ⟨⟨"", some "b", .opened⟩, ["A", "A", "B"]⟩ =
        some (.ok "B",
          ⟨⟨32, 16⟩, [("A", ⟨"a", none, .share⟩), ("B", ⟨"", some "b", .opened⟩)]⟩) := rfl
  have hhistory := ((History.start.concat hfirst).concat hblank).concat hsecond
  obtain ⟨-, hlength, hstored, hunknown, -⟩ := stored_snippets_kept hhistory
  exact ⟨_, _, hhistory, rfl, hstored _ _ (by simp [Log.stored, Except.toOption]),
    hstored _ _ (by simp [Log.stored, Except.toOption]), hunknown "C" (by decide), hlength⟩

end SnippetStore

end LivePreview
