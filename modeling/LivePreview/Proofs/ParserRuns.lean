import LivePreview.Script.Parser.Module
/-!
# Runs of the parser

What a parser does at a token that is known. A run is an equation: the parser, at a state, gives a
result and a new state (`bind_run` and the lemmas beside it take a run apart). A state is described
by its place, which is its token and the text behind it (`At`); everything else, such as its offset,
is left open. Tests of the token are then computed (`At.tests`), and going on is a matter of what
the lexer cuts off behind the token (`At.next`). A parser that reads something between two places
(`Reads`) may be used wherever the first place is.
-/
namespace LivePreview.Script.Parser

/-! ## Running -/

section Running

variable {α β : Type} {p q : Parser α} {s s' s'' : ParserState} {a : α}

@[simp] theorem pure_run : (pure a : Parser α) s = .ok (a, s) := rfl

@[simp] theorem get_run : (get : Parser ParserState) s = .ok (s, s) := rfl

@[simp] theorem set_run : (set s' : Parser PUnit) s = .ok (⟨⟩, s') := rfl

@[simp] theorem modify_run {g : ParserState → ParserState} :
    (modify g : Parser Unit) s = .ok ((), g s) := rfl

@[simp] theorem bind_run {f : α → Parser β} : (p >>= f) s =
    match p s with
    | .ok (a, s') => f a s'
    | .error d => .error d := by
  change (p s).bind (fun x => f x.1 x.2) = _
  cases p s <;> rfl

@[simp] theorem map_run {g : α → β} : (g <$> p) s =
    match p s with
    | .ok (a, s') => .ok (g a, s')
    | .error d => .error d := by
  rw [map_eq_pure_bind, bind_run]
  rfl

@[simp] theorem discard_run : discard p s =
    match p s with
    | .ok (_, s') => .ok ((), s')
    | .error d => .error d :=
  map_run

@[simp] theorem ite_run {c : Prop} [Decidable c] :
    (if c then p else q) s = if c then p s else q s := by
  split <;> rfl

theorem within_run {f : Context → Context} : within f p s =
    match p { s with context := f s.context } with
    | .ok (a, s') => .ok (a, { s' with context := s.context })
    | .error d => .error d := by
  simp [within]

/-- A test ahead leaves the parser where it is. -/
theorem peek_stays (p : Parser Bool) (s : ParserState) : ∃ ans, peek p s = .ok (ans, s) := by
  cases h : p s with
  | ok r => exact ⟨r.1, by simp [peek, lookahead, h]⟩
  | error d => exact ⟨false, by simp [peek, lookahead, h]⟩

theorem peekNext_stays (test : Token → Bool) (s : ParserState) :
    ∃ ans, peekNext test s = .ok (ans, s) :=
  peek_stays _ s

/-! ### Loops -/

/-- The results of a loop, one after the other, until a step gives none. -/
inductive Repeats (step : Parser (Option α)) : ParserState → List α → ParserState → Prop where
  | done {s s' : ParserState} (h : step s = .ok (none, s')) : Repeats step s [] s'
  | more {s s₁ s' : ParserState} {a : α} {as : List α} (h : step s = .ok (some a, s₁))
      (hmore : Repeats step s₁ as s') : Repeats step s (a :: as) s'

theorem Repeats.manyFrom {step : Parser (Option α)} {as : List α} (h : Repeats step s as s')
    {fuel : Nat} (hfuel : as.length < fuel) (acc : List α) :
    manyFrom step fuel acc s = .ok (as.reverse ++ acc, s') := by
  induction h generalizing fuel acc with
  | done h =>
    obtain ⟨fuel, rfl⟩ : ∃ n, fuel = n + 1 := ⟨fuel - 1, by simp at hfuel; omega⟩
    simp [Parser.manyFrom, h]
  | more h _ ih =>
    obtain ⟨fuel, rfl⟩ : ∃ n, fuel = n + 1 := ⟨fuel - 1, by simp at hfuel; omega⟩
    have hmore := ih (by simpa using hfuel : _ < fuel)
    simp [Parser.manyFrom, h, hmore]

/-- A loop takes as many steps as there are, if the source is no shorter than that. -/
theorem Repeats.many {step : Parser (Option α)} {as : List α} (h : Repeats step s as s')
    (hroom : as.length ≤ s.size) : many step s = .ok (as, s') := by
  have hall := h.manyFrom (by omega : as.length < s.size + 2) []
  simp [Parser.many, hall]

theorem many_of_none {step : Parser (Option α)} (h : step s = .ok (none, s')) :
    many step s = .ok ([], s') :=
  (Repeats.done h).many (Nat.zero_le _)

/-- The values that a loop goes through, in a number of steps. -/
inductive Grows (step : α → Parser (Option α)) :
    Nat → α → ParserState → α → ParserState → Prop where
  | refl {a : α} {s : ParserState} : Grows step 0 a s a s
  | step {n : Nat} {a b c : α} {s s₁ s' : ParserState} (h : step a s = .ok (some b, s₁))
      (hmore : Grows step n b s₁ c s') : Grows step (n + 1) a s c s'

theorem Grows.growFrom {step : α → Parser (Option α)} {n : Nat} {b : α}
    (h : Grows step n a s b s') {fuel : Nat} (hfuel : n ≤ fuel) :
    growFrom step fuel a s = growFrom step (fuel - n) b s' := by
  induction h generalizing fuel with
  | refl => rfl
  | step h _ ih =>
    obtain ⟨fuel, rfl⟩ : ∃ m, fuel = m + 1 := ⟨fuel - 1, by omega⟩
    rw [Parser.growFrom, bind_run, h]
    dsimp only
    rw [ih (by omega)]
    congr 1
    omega

/-- A loop that goes through some values ends with the last one. -/
theorem Grows.grow {step : α → Parser (Option α)} {n : Nat} {b : α}
    (h : Grows step n a s b s') (hend : step b s' = .ok (none, s'')) (hroom : n ≤ s.size) :
    grow step a s = .ok (b, s'') := by
  obtain ⟨fuel, hfuel⟩ : ∃ m, s.size + 2 - n = m + 1 := ⟨s.size + 1 - n, by omega⟩
  have hlast : Parser.growFrom step (fuel + 1) b s' = .ok (b, s'') := by
    simp [Parser.growFrom, hend]
  simp only [Parser.grow, bind_run, get_run]
  rw [h.growFrom (by omega), hfuel, hlast]

theorem grow_of_none {step : α → Parser (Option α)} (h : step a s = .ok (none, s')) :
    grow step a s = .ok (a, s') :=
  Grows.refl.grow h (Nat.zero_le _)

end Running

/-! ## Kinds of tokens -/

section Kinds

-- These are proved by unfolding, not by `rfl`: otherwise `simp` cannot use them for conditions.

variable {x w : String} {l : List String}

@[simp] theorem isSign_punct : (TokenKind.punct x).isSign l = l.contains x := by
  simp only [TokenKind.isSign]

@[simp] theorem isSign_word : (TokenKind.word w).isSign l = false := by
  simp only [TokenKind.isSign]

@[simp] theorem isOneOf_word : (TokenKind.word w).isOneOf l = l.contains w := by
  simp only [TokenKind.isOneOf]

@[simp] theorem isOneOf_punct : (TokenKind.punct x).isOneOf l = false := by
  simp only [TokenKind.isOneOf]

@[simp] theorem isName_word : (TokenKind.word w).isName = !isReserved w := by
  simp only [TokenKind.isName]

@[simp] theorem isName_punct : (TokenKind.punct x).isName = false := by
  simp only [TokenKind.isName]

@[simp] theorem isWord_word : (TokenKind.word w).isWord = true := by
  simp only [TokenKind.isWord]

@[simp] theorem isPrivate_word : (TokenKind.word w).isPrivate = false := by
  simp only [TokenKind.isPrivate]

@[simp] theorem isPrivate_punct : (TokenKind.punct x).isPrivate = false := by
  simp only [TokenKind.isPrivate]

variable {k : TokenKind}

/-- What is none of some signs is not a certain one of them. -/
theorem not_isSign_of_mem (hk : k.isSign l = false) (hx : x ∈ l) : k.isSign [x] = false := by
  cases k with
  | punct y =>
    have hne : y ≠ x := fun heq => by simp [heq, hx] at hk
    simp [hne]
  | _ => rfl

/-- What is none of some words is not a certain one of them. -/
theorem not_isOneOf_of_mem (hk : k.isOneOf l = false) (hw : w ∈ l) : k.isOneOf [w] = false := by
  cases k with
  | word v =>
    have hne : v ≠ w := fun heq => by simp [heq, hw] at hk
    simp [hne]
  | _ => rfl

end Kinds

/-! ## Places -/

/-- A token and the text behind it. -/
structure Place where
  kind : TokenKind
  afterBreak : Bool
  rest : List Char

/-- The parser is at a place, where the token is written without escapes, and nothing is wrong so
far. -/
structure At (c : Context) (p : Place) (s : ParserState) : Prop where
  kind : s.token.kind = p.kind
  afterBreak : s.token.afterBreak = p.afterBreak
  escaped : s.token.escaped = false
  rest : s.rest = p.rest
  context : s.context = c
  typed : s.typed = true
  /-- The source is no shorter than the loops that are followed here. -/
  room : 8 ≤ s.size
  lexError : s.lexError = none
  error : s.error = none
  pending : s.pendingDefaults = []

/-- No comment stands in front of the token. -/
structure Quiet (s : ParserState) : Prop where
  comments : s.token.comments = []
  pure : s.token.pure = false
  effectless : s.token.effectless = false

/-- One place comes behind another, without comments between them, if tokens are cut off with
`cut`. -/
def FollowsBy (cut : List Char → Lexeme) (p q : Place) : Prop :=
  ∀ offset, ∃ start stop pragmas, lexWith cut (some p.kind) offset p.rest =
    ⟨⟨q.kind, start, stop, q.afterBreak, false, [], false, false⟩, q.rest, none, pragmas⟩

/-- One place comes behind another, without comments between them. -/
abbrev Follows (p q : Place) : Prop := FollowsBy Lexer.lexeme p q

/-- What stands behind two places may be read off the characters of two literals. Decoding a long
literal takes the kernel much longer than cutting a token off a list. -/
theorem FollowsBy.of_chars {cut : List Char → Lexeme} {k k' : TokenKind} {b b' : Bool}
    {u v t : List Char} (h : FollowsBy cut ⟨k, b, u ++ t⟩ ⟨k', b', v ++ t⟩) :
    FollowsBy cut ⟨k, b, (String.ofList u).toList ++ t⟩
      ⟨k', b', (String.ofList v).toList ++ t⟩ := by
  rwa [String.toList_ofList, String.toList_ofList]

/-- One place comes behind another inside an element. -/
def FollowsInside (p q : Place) : Prop :=
  ∃ length, Lexer.markupChild p.rest = ⟨q.kind, length, q.rest, none, false⟩ ∧
    q.afterBreak = false

/-- A parser reads something between two places. One offset may stand in it. -/
def Reads {α : Type} (c : Context) (parser : Parser α) (p : Place) (a : Nat → α) (q : Place) :
    Prop :=
  ∀ s, At c p s → Quiet s → ∃ offset s', parser s = .ok (a offset, s') ∧ At c q s' ∧ Quiet s'

namespace At

variable {c c' : Context} {p q : Place} {s s' : ParserState}

@[simp] theorem atEnd_run : atEnd s = .ok (s.token.kind == .eof, s) := by
  simp [atEnd, Parser.kind]

/-- What the tests of a token give. -/
theorem tests {k : TokenKind} {b : Bool} {t : List Char} (h : At c ⟨k, b, t⟩ s) :
    Parser.kind s = .ok (k, s) ∧ Parser.token s = .ok (s.token, s) ∧
      start s = .ok (s.token.start, s) ∧ Parser.typed s = .ok (true, s) ∧
      Parser.context s = .ok (c, s) ∧ (∀ ps, atSigns ps s = .ok (k.isSign ps, s)) ∧
      (∀ ws, atWords ws s = .ok (k.isOneOf ws, s)) ∧
      (∀ x, atSign x s = .ok (k.isSign [x], s)) ∧
      (∀ w, atWord w s = .ok (k.isOneOf [w], s)) ∧
      atEnd s = .ok (k == .eof, s) ∧ advance s = advanceName s := by
  have hkind : Parser.kind s = .ok (k, s) := by simp [Parser.kind, h.kind]
  refine ⟨hkind, by simp [Parser.token], by simp [start], by simp [Parser.typed, h.typed],
    by simp [Parser.context, h.context], fun ps => by simp [atSigns, hkind],
    fun ws => by simp [atWords, hkind], fun x => ?_, fun w => ?_, by simp [atEnd, hkind], ?_⟩
  · simp only [atSign, bind_run, hkind]
    cases k <;> simp [TokenKind.isSign, eq_comm, Bool.beq_eq_decide_eq]
  · simp only [atWord, bind_run, hkind]
    cases k <;> simp [TokenKind.isOneOf, Bool.beq_eq_decide_eq]
  · simp only [advance, Parser.token, bind_run, get_run, pure_run]
    cases s.token.kind <;> simp [h.escaped]

/-- Going on to the next place. -/
theorem nextBy {cut : List Char → Lexeme} (h : At c p s) (hq : FollowsBy cut p q) :
    ∃ s', advanceWith cut s = .ok ((), s') ∧ At c q s' ∧ Quiet s' := by
  obtain ⟨start, stop, pragmas, heq⟩ := hq s.token.stop
  rw [← h.kind, ← h.rest] at heq
  refine ⟨_, rfl, ?_, ?_⟩
  · dsimp only
    rw [heq]
    exact ⟨rfl, rfl, rfl, rfl, h.context, h.typed, h.room, by simp [h.lexError], h.error,
      h.pending⟩
  · dsimp only
    rw [heq]
    exact ⟨rfl, rfl, rfl⟩

theorem next (h : At c p s) (hq : Follows p q) :
    ∃ s', advanceName s = .ok ((), s') ∧ At c q s' ∧ Quiet s' :=
  h.nextBy hq

/-- Going on inside an element. -/
theorem nextInside (h : At c p s) (hq : FollowsInside p q) :
    ∃ s', advanceMarkup s = .ok ((), s') ∧ At c q s' ∧ Quiet s' := by
  obtain ⟨length, heq, hafter⟩ := hq
  rw [← h.rest] at heq
  refine ⟨_, rfl, ?_, ?_⟩
  · dsimp only
    rw [heq]
    exact ⟨rfl, hafter.symm, rfl, rfl, h.context, h.typed, h.room, by simp [h.lexError], h.error,
      h.pending⟩
  · exact ⟨rfl, rfl, rfl⟩

/-- The same place in other surroundings. -/
theorem inside (h : At c p s) (c' : Context) : At c' p { s with context := c' } :=
  { h with context := rfl }

/-- Names that are remembered change nothing about a place. -/
theorem record (h : At c p s) (n : String) : At c p { s with names := n :: s.names } :=
  { h with }

end At

/-- Surroundings of its own in front of a parser, and the old ones behind it. -/
theorem Reads.within {α : Type} {c : Context} {f : Context → Context} {parser : Parser α}
    {p q : Place} {a : Nat → α} (h : Reads (f c) parser p a q) :
    Reads c (within f parser) p a q := by
  intro s hs hquiet
  obtain ⟨offset, s', hrun, hs', hquiet'⟩ :=
    h _ (hs.inside (f c)) ⟨hquiet.comments, hquiet.pure, hquiet.effectless⟩
  refine ⟨offset, _, ?_, hs'.inside c, hquiet'.comments, hquiet'.pure, hquiet'.effectless⟩
  simp [within_run, hs.context, hrun]

end LivePreview.Script.Parser
