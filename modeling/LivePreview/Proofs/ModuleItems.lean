import LivePreview.Proofs.ParserRuns
import LivePreview.Script.Parser.Module
import Mathlib.Tactic.ByContra
/-!
# The items of a module in front of a place

A module is read item by item, and so far as it has been read the items are known whatever stands
behind them (`Source.itemsBefore?`). If the rest of the module is a single item, the whole module is
read (`Source.parse_of_itemsBefore?`); and of two places the items in front of the earlier one are
also in front of the later one (`Source.items_of_itemsBefore?`).
-/
namespace LivePreview.Script

deriving instance DecidableEq for Context

namespace Parser

variable {g : Grammar} {w w' : String} {t t' : List Char} {origin s s' s'' : ParserState}
  {a b d : List Stmt × Bool} {n m : Nat}

/-! ## Places between items -/

/-- Whether an item starts at a word in front of a text, in the surroundings in which the parser
started, and nothing is wrong so far. -/
def standsAt (origin : ParserState) (w : String) (t : List Char) (s : ParserState) : Bool :=
  s.token.kind == .word w && !s.token.escaped && s.rest == t && s.context == origin.context &&
    s.typed && decide (t.length ≤ s.size) && s.lexError.isNone && s.error.isNone &&
    s.pendingDefaults.isEmpty

/-- Whether the items end, at a place or with the source. -/
def endsAt (origin : ParserState) (w : String) (t : List Char) : Parser Bool := do
  return standsAt origin w t (← get) || (← atEnd)

theorem at_of_standsAt (h : standsAt origin w t s = true) (hroom : 8 ≤ t.length) :
    At origin.context ⟨.word w, s.token.afterBreak, t⟩ s := by
  simp only [standsAt, Bool.and_eq_true, beq_iff_eq, Bool.not_eq_true', decide_eq_true_eq,
    Option.isNone_iff_eq_none, List.isEmpty_iff] at h
  obtain ⟨⟨⟨⟨⟨⟨⟨⟨hkind, hescaped⟩, hrest⟩, hcontext⟩, htyped⟩, hsize⟩, hlex⟩, herror⟩, hpending⟩ :=
    h
  exact ⟨hkind, rfl, hescaped, hrest, hcontext, htyped, by omega, hlex, herror, hpending⟩

@[simp] theorem endsAt_run :
    endsAt origin w t s = .ok (standsAt origin w t s || s.token.kind == .eof, s) := by
  simp [endsAt]

/-! ## Steps through the items -/

theorem bodyStep_of_end {ends : Parser Bool} (h : ends s = .ok (true, s)) :
    bodyStep g ends a s = .ok (none, s) := by
  simp [bodyStep, h]

theorem bodyStep_congr {ends ends' : Parser Bool} (h : ends s = .ok (false, s))
    (h' : ends' s = .ok (false, s)) : bodyStep g ends a s = bodyStep g ends' a s := by
  simp [bodyStep, h, h']

/-- At a word, the next item is a statement. -/
theorem bodyStep_word (hkind : s.token.kind = .word w) : bodyStep g atEnd a s =
    match g.statement false s with
    | .ok (st, s') => .ok (some (st :: a.1, false), s')
    | .error d => .error d := by
  cases hstatement : g.statement false s <;> cases hdirectives : a.2 <;>
    simp [bodyStep, headStatement, kind, hkind, hstatement, hdirectives]

/-- A step adds one item, unless the source ends. -/
theorem bodyStep_cases {r : Option (List Stmt × Bool)}
    (h : bodyStep g atEnd a s = .ok (r, s')) (hkind : s.token.kind ≠ .eof) :
    ∃ st directives, r = some (st :: a.1, directives) := by
  cases hdirectives : a.2 with
  | true =>
    cases hread : headStatement g s with
    | error d => simp [bodyStep, hkind, hdirectives, hread] at h
    | ok x =>
      have hr : some (x.1.1 :: a.1, x.1.2) = r ∧ x.2 = s' := by
        simpa [bodyStep, hkind, hdirectives, hread] using h
      exact ⟨_, _, hr.1.symm⟩
  | false =>
    cases hread : g.statement false s with
    | error d => simp [bodyStep, hkind, hdirectives, hread] at h
    | ok x =>
      have hr : some (x.1 :: a.1, false) = r ∧ x.2 = s' := by
        simpa [bodyStep, hkind, hdirectives, hread] using h
      exact ⟨_, _, hr.1.symm⟩

/-- At the end of the source there is no step. -/
theorem bodyStep_eof (hkind : s.token.kind = .eof) : bodyStep g atEnd a s = .ok (none, s) :=
  bodyStep_of_end (by simp [hkind])

theorem bodyStep_some (h : bodyStep g atEnd a s = .ok (some b, s')) :
    s.token.kind ≠ .eof ∧ ∃ st, b.1 = st :: a.1 := by
  have hkind : s.token.kind ≠ .eof := by
    intro heof
    simp [bodyStep_eof heof] at h
  obtain ⟨st, directives, hb⟩ := bodyStep_cases h hkind
  exact ⟨hkind, st, by rw [Option.some.inj hb]⟩

/-- Several steps add as many items. -/
theorem Grows.items (h : Grows (bodyStep g atEnd) n a s b s') :
    ∃ more, b.1 = more ++ a.1 ∧ more.length = n := by
  induction h with
  | refl => exact ⟨[], rfl, rfl⟩
  | step h _ ih =>
    obtain ⟨more, hmore, hlength⟩ := ih
    obtain ⟨-, st, hst⟩ := bodyStep_some h
    exact ⟨more ++ [st], by simp [hmore, hst], by simp [hlength]⟩

/-- What is read up to a place is read in steps through the module. -/
theorem grows_of_growFrom {fuel : Nat}
    (h : growFrom (bodyStep g (endsAt origin w t)) fuel a s = .ok (b, s')) :
    ∃ n, Grows (bodyStep g atEnd) n a s b s' := by
  induction fuel generalizing a s with
  | zero =>
    obtain ⟨rfl, rfl⟩ : a = b ∧ s = s' := by simpa [growFrom] using h
    exact ⟨0, .refl⟩
  | succ fuel ih =>
    cases hends : standsAt origin w t s || s.token.kind == .eof with
    | true =>
      have hnone : bodyStep g (endsAt origin w t) a s = .ok (none, s) :=
        bodyStep_of_end (by rw [endsAt_run, hends])
      obtain ⟨rfl, rfl⟩ : a = b ∧ s = s' := by simpa [growFrom, hnone] using h
      exact ⟨0, .refl⟩
    | false =>
      have hsame : bodyStep g (endsAt origin w t) a s = bodyStep g atEnd a s := by
        rw [Bool.or_eq_false_iff] at hends
        exact bodyStep_congr (by simp [hends]) (by simp [hends])
      cases hstep : bodyStep g atEnd a s with
      | error d => simp [growFrom, hsame, hstep] at h
      | ok r =>
        obtain ⟨next, s₁⟩ := r
        cases next with
        | none =>
          have hkind : s.token.kind ≠ .eof := by
            rw [Bool.or_eq_false_iff] at hends
            simpa using hends.2
          obtain ⟨_, _, hsome⟩ := bodyStep_cases hstep hkind
          cases hsome
        | some next =>
          have hmore : growFrom (bodyStep g (endsAt origin w t)) fuel next s₁ = .ok (b, s') := by
            simpa [growFrom, hsame, hstep] using h
          obtain ⟨n, hn⟩ := ih hmore
          exact ⟨n + 1, .step hstep hn⟩

/-- Steps may go on behind others. -/
theorem Grows.trans {α : Type} {step : α → Parser (Option α)} {a b d : α}
    (h : Grows step n a s b s') (h' : Grows step m b s' d s'') : Grows step (n + m) a s d s'' := by
  induction h with
  | refl => simpa using h'
  | step hstep _ ih =>
    have hall := Grows.step hstep (ih h')
    rwa [Nat.add_right_comm] at hall

theorem Grows.eq_of_zero {α : Type} {step : α → Parser (Option α)} {a b : α}
    (h : Grows step 0 a s b s') : a = b ∧ s = s' := by
  cases h
  exact ⟨rfl, rfl⟩

/-- Steps from one place lead the same way. -/
theorem Grows.rest {α : Type} {step : α → Parser (Option α)} {a b d : α}
    (h : Grows step n a s b s') (h' : Grows step m a s d s'') (hle : n ≤ m) :
    Grows step (m - n) b s' d s'' := by
  induction h generalizing m with
  | refl => exact h'
  | step h _ ih =>
    cases h' with
    | refl => omega
    | step h₁ hmore₁ =>
      obtain ⟨rfl, rfl⟩ : _ = _ ∧ _ = _ := by simpa using h.symm.trans h₁
      have := ih hmore₁ (by omega)
      rwa [Nat.add_sub_add_right]

/-! ## Reading a module up to a place -/

/-- The items of a source that follows `offset` other characters, up to a place, last one first, and
whether these are directives only; and the parser there. -/
def bodyBefore (offset : Nat) (source : List Char) (w : String) (t : List Char) :
    Except Diagnostic ((List Stmt × Bool) × ParserState) :=
  grow
    (bodyStep (Grammar.ofDepth (8 * source.length + 64)) (endsAt (initial true offset source) w t))
    ([], true) (initial true offset source)

end Parser

/-- The items of a typed source that follows `offset` other characters in front of a place where one
more item starts, unless something is wrong with them. -/
def Source.itemsBeforeFrom? (offset : Nat) (source : List Char) (w : String) (t : List Char) :
    Option Module :=
  match Parser.bodyBefore offset source w t with
  | .ok ((items, _), s) =>
    if Parser.standsAt (Parser.initial true offset source) w t s ∧ items.length < source.length then
      some items.reverse
    else none
  | .error _ => none

/-- The items of a typed source in front of a place where one more item starts, unless something is
wrong with them. -/
def Source.itemsBefore? (source : List Char) (w : String) (t : List Char) : Option Module :=
  match Parser.launchLine? source with
  | some (command, rest) => (itemsBeforeFrom? (command.length + 2) rest w t).map
      (.launchLine (String.ofList command) :: ·)
  | none => itemsBeforeFrom? 0 source w t

namespace Parser

/-- The surroundings of the items of a module. -/
def moduleContext : Context := (initial true 0 []).context

/-- What is read as an item at a place has a property. -/
def IsItem (w : String) (t : List Char) (P : Stmt → Prop) : Prop :=
  ∀ depth afterBreak s st s', At moduleContext ⟨.word w, afterBreak, t⟩ s →
    statementBody (Grammar.ofDepth (depth + 32)) false s = .ok (st, s') → P st

/-- An item with a property is read at a place, and nothing follows it. -/
def IsLastItem (w : String) (t : List Char) (P : Stmt → Prop) : Prop :=
  ∀ depth afterBreak s, At moduleContext ⟨.word w, afterBreak, t⟩ s →
    ∃ st s', statementBody (Grammar.ofDepth (depth + 32)) false s = .ok (st, s') ∧ P st ∧
      At moduleContext ⟨.eof, false, []⟩ s' ∧ Quiet s'

variable {P Q : Stmt → Prop} {origin : ParserState} {offset : Nat} {source : List Char}
  {before items : Module}

/-- The items in front of a place are read in as many steps. -/
theorem grows_of_itemsBeforeFrom? (h : Source.itemsBeforeFrom? offset source w t = some items) :
    ∃ directives s,
      Grows (bodyStep (Grammar.ofDepth (8 * source.length + 64)) atEnd) items.length ([], true)
        (initial true offset source) (items.reverse, directives) s ∧
      standsAt (initial true offset source) w t s = true ∧ items.length < source.length := by
  unfold Source.itemsBeforeFrom? at h
  generalize hbefore : bodyBefore offset source w t = run at h
  cases run with
  | error d => cases h
  | ok r =>
    obtain ⟨⟨found, directives⟩, s⟩ := r
    simp only [Option.ite_none_right_eq_some, Option.some.injEq] at h
    obtain ⟨⟨hstands, hlength⟩, rfl⟩ := h
    have hrun := hbefore
    simp only [bodyBefore, grow, bind_run, get_run] at hrun
    obtain ⟨n, hn⟩ := grows_of_growFrom hrun
    obtain ⟨more, hmore, hcount⟩ := hn.items
    obtain rfl : found = more := by simpa using hmore
    refine ⟨directives, s, ?_, hstands, by simpa using hlength⟩
    simpa [hcount] using hn

theorem step_of_isLastItem (hlast : IsLastItem w t P) (hroom : 8 ≤ t.length)
    (hstands : standsAt (initial true offset source) w t s = true) (items : List Stmt)
    (directives : Bool) :
    ∃ st s', bodyStep (Grammar.ofDepth (8 * source.length + 64)) atEnd (items, directives) s =
        .ok (some (st :: items, false), s') ∧ P st ∧ At moduleContext ⟨.eof, false, []⟩ s' ∧
      Quiet s' := by
  have hat : At moduleContext ⟨.word w, s.token.afterBreak, t⟩ s := at_of_standsAt hstands hroom
  obtain ⟨st, s', hrun, hst, hs'⟩ := hlast (8 * source.length + 31) _ s hat
  refine ⟨st, s', ?_, hst, hs'⟩
  have hstatement : (Grammar.ofDepth (8 * source.length + 64)).statement false s = .ok (st, s') :=
    hrun
  simp [bodyStep_word hat.kind, hstatement]

/-- A module that is read up to a place and ends with one item there is read. -/
theorem parseFrom_of_itemsBeforeFrom? (h : Source.itemsBeforeFrom? offset source w t = some items)
    (hroom : 8 ≤ t.length) (hlast : IsLastItem w t P) :
    ∃ m item, Source.parseFrom true offset source = .ok m ∧ m.items = items ++ [item] ∧ P item := by
  obtain ⟨directives, s, hgrows, hstands, hlength⟩ := grows_of_itemsBeforeFrom? h
  obtain ⟨item, s', hstep, hitem, hs', hquiet⟩ :=
    step_of_isLastItem hlast hroom hstands items.reverse directives
  have hend := bodyStep_eof (g := Grammar.ofDepth (8 * source.length + 64))
    (a := (item :: items.reverse, false)) hs'.kind
  have hgrow : grow (bodyStep (Grammar.ofDepth (8 * source.length + 64)) atEnd) ([], true)
      (initial true offset source) = .ok ((item :: items.reverse, false), s') :=
    (hgrows.trans (.step hstep .refl)).grow hend hlength
  have hbody : bodyStatements (Grammar.ofDepth (8 * source.length + 64)) atEnd
      (initial true offset source) = .ok (items ++ [item], s') := by
    simp [bodyStatements, hgrow, hs'.tests, hquiet.comments]
  refine ⟨⟨items ++ [item], s'.names, s'.pragmas⟩, item, ?_, rfl, hitem⟩
  simp [Source.parseFrom, hbody, hs'.lexError, hs'.error, hs'.pending]

/-- Behind the place of the last item there is one step, and then the source ends. -/
theorem grows_last (hlast : IsLastItem w t P) (hroom : 8 ≤ t.length)
    (hstands : standsAt (initial true offset source) w t s = true) {directives : Bool}
    (h : Grows (bodyStep (Grammar.ofDepth (8 * source.length + 64)) atEnd) n (items, directives) s
      b s') : n = 0 ∨ s'.token.kind = .eof := by
  obtain ⟨item, s₁, hstep, -, hs₁, -⟩ :=
    step_of_isLastItem hlast hroom hstands items directives
  cases h with
  | refl => exact .inl rfl
  | step hfirst hmore =>
    obtain ⟨rfl, rfl⟩ : (item :: items, false) = _ ∧ s₁ = _ := by
      simpa using hstep.symm.trans hfirst
    cases hmore with
    | refl => exact .inr hs₁.kind
    | step hsecond _ => exact absurd hs₁.kind (bodyStep_some hsecond).1

/-- Two places at which the parser stands at once are the same. -/
theorem place_eq_of_standsAt (h : standsAt origin w t s = true)
    (h' : standsAt origin w' t' s = true) :
    (w, t) = (w', t') := by
  simp only [standsAt, Bool.and_eq_true, beq_iff_eq] at h h'
  have hword : w = w' := by
    have := h.1.1.1.1.1.1.1.1.symm.trans h'.1.1.1.1.1.1.1.1
    simpa using this
  rw [hword, ← h.1.1.1.1.1.1.2, ← h'.1.1.1.1.1.1.2]

/-- The items in front of an earlier place are in front of the last one, too, and the item at the
earlier place comes next. -/
theorem items_of_itemsBeforeFrom?
    (hbefore : Source.itemsBeforeFrom? offset source w t = some before) (hitem : IsItem w t P) (hroom : 8 ≤ t.length)
    (h : Source.itemsBeforeFrom? offset source w' t' = some items) (hlast : IsLastItem w' t' Q)
    (hroom' : 8 ≤ t'.length) (hne : (w, t) ≠ (w', t')) :
    ∃ item after, items = before ++ item :: after ∧ P item := by
  obtain ⟨directives, s, hgrows, hstands, -⟩ := grows_of_itemsBeforeFrom? hbefore
  obtain ⟨directives', s', hgrows', hstands', -⟩ := grows_of_itemsBeforeFrom? h
  have hat : At moduleContext ⟨.word w, s.token.afterBreak, t⟩ s := at_of_standsAt hstands hroom
  have hs : s ≠ s' := by
    rintro rfl
    exact hne (place_eq_of_standsAt hstands hstands')
  have hlt : before.length < items.length := by
    by_contra hnot
    have hrest := hgrows'.rest hgrows (by omega)
    obtain hzero | heof := grows_last hlast hroom' hstands' hrest
    · rw [hzero] at hrest
      exact hs hrest.eq_of_zero.2.symm
    · exact absurd (hat.kind.symm.trans heof) (by simp)
  have hrest := hgrows.rest hgrows' (by omega)
  obtain ⟨n, hn⟩ : ∃ n, items.length - before.length = n + 1 :=
    ⟨items.length - before.length - 1, by omega⟩
  rw [hn] at hrest
  cases hrest with
  | step hstep hmore =>
    rename_i next s₁
    obtain ⟨item, hstatement, hnext⟩ :
        ∃ item, (Grammar.ofDepth (8 * source.length + 64)).statement false s = .ok (item, s₁) ∧
          next = (item :: before.reverse, false) := by
      rw [bodyStep_word hat.kind] at hstep
      cases hstatement : (Grammar.ofDepth (8 * source.length + 64)).statement false s with
      | error d => simp [hstatement] at hstep
      | ok r =>
        have hr : (r.1 :: before.reverse, false) = next ∧ r.2 = s₁ := by
          simpa [hstatement] using hstep
        exact ⟨r.1, by rw [← hr.2], hr.1.symm⟩
    obtain ⟨more, hmore, -⟩ := hmore.items
    refine ⟨item, more.reverse, ?_, hitem (8 * source.length + 31) _ s item s₁ hat hstatement⟩
    have hitems := congrArg List.reverse hmore
    simpa [hnext] using hitems

end Parser

variable {w w' : String} {t t' : List Char} {P Q : Stmt → Prop} {source : List Char}
  {before items : Module}

/-- A module that is read up to a place and ends with one item there is read. -/
theorem Source.parse_of_itemsBefore? (h : Source.itemsBefore? source w t = some items)
    (hroom : 8 ≤ t.length) (hlast : Parser.IsLastItem w t P) :
    ∃ m item, Source.parse true source = .ok m ∧ m.items = items ++ [item] ∧ P item := by
  unfold Source.itemsBefore? at h
  unfold Source.parse
  cases hlaunch : Parser.launchLine? source with
  | none =>
    rw [hlaunch] at h
    exact Parser.parseFrom_of_itemsBeforeFrom? h hroom hlast
  | some r =>
    obtain ⟨command, rest⟩ := r
    rw [hlaunch] at h
    obtain ⟨inner, hinner, rfl⟩ := Option.map_eq_some_iff.mp h
    obtain ⟨m, item, hparse, hitems, hitem⟩ :=
      Parser.parseFrom_of_itemsBeforeFrom? hinner hroom hlast
    refine ⟨{ m with items := .launchLine (String.ofList command) :: m.items }, item, ?_, ?_, hitem⟩
    · dsimp only
      rw [hparse]
      rfl
    · simp [hitems]

/-- The items in front of an earlier place are in front of the last one, too, and the item at the
earlier place comes next. -/
theorem Source.items_of_itemsBefore? (hbefore : Source.itemsBefore? source w t = some before)
    (hitem : Parser.IsItem w t P) (hroom : 8 ≤ t.length)
    (h : Source.itemsBefore? source w' t' = some items) (hlast : Parser.IsLastItem w' t' Q)
    (hroom' : 8 ≤ t'.length) (hne : (w, t) ≠ (w', t')) :
    ∃ item after, items = before ++ item :: after ∧ P item := by
  unfold Source.itemsBefore? at h hbefore
  cases hlaunch : Parser.launchLine? source with
  | none =>
    rw [hlaunch] at h hbefore
    exact Parser.items_of_itemsBeforeFrom? hbefore hitem hroom h hlast hroom' hne
  | some r =>
    obtain ⟨command, rest⟩ := r
    rw [hlaunch] at h hbefore
    obtain ⟨inner, hinner, rfl⟩ := Option.map_eq_some_iff.mp h
    obtain ⟨inner', hinner', rfl⟩ := Option.map_eq_some_iff.mp hbefore
    obtain ⟨item, after, rfl, hP⟩ :=
      Parser.items_of_itemsBeforeFrom? hinner' hitem hroom hinner hlast hroom' hne
    exact ⟨item, after, rfl, hP⟩

end LivePreview.Script
