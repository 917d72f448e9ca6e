import LivePreview.Proofs.ParserRuns
import LivePreview.Script.Parser.Module
/-!
# Simple forms

How the parser reads some of the forms that a module may hold: elements, parentheses, a function
with a single statement in it. Each lemma says between which places a form is read, if its parts are
read between theirs.
-/
namespace LivePreview.Script.Parser

variable {g : Grammar} {c : Context} {p q r : Place} {s : ParserState}

/-! ## Signs and words -/

namespace At

/-- What is not there is not skipped. -/
theorem misses {k : TokenKind} {b : Bool} {t : List Char} (h : At c ⟨k, b, t⟩ s) :
    (∀ x, k.isSign [x] = false → eat x s = .ok (false, s)) ∧
      ∀ w, k.isOneOf [w] = false → eatWord w s = .ok (false, s) := by
  constructor
  · intro x hx
    simp [eat, h.tests, hx]
  · intro w hw
    simp [eatWord, h.tests, hw]

theorem eat {x : String} {b : Bool} {t : List Char} (h : At c ⟨.punct x, b, t⟩ s)
    (hq : Follows ⟨.punct x, b, t⟩ q) :
    ∃ s', Parser.eat x s = .ok (true, s') ∧ At c q s' ∧ Quiet s' := by
  obtain ⟨s', hrun, hs'⟩ := h.next hq
  exact ⟨s', by simp [Parser.eat, h.tests, hrun], hs'⟩

theorem eatWord {w : String} {b : Bool} {t : List Char} (h : At c ⟨.word w, b, t⟩ s)
    (hq : Follows ⟨.word w, b, t⟩ q) :
    ∃ s', Parser.eatWord w s = .ok (true, s') ∧ At c q s' ∧ Quiet s' := by
  obtain ⟨s', hrun, hs'⟩ := h.next hq
  exact ⟨s', by simp [Parser.eatWord, h.tests, hrun], hs'⟩

theorem expect {x : String} {b : Bool} {t : List Char} (h : At c ⟨.punct x, b, t⟩ s)
    (hq : Follows ⟨.punct x, b, t⟩ q) :
    ∃ s', Parser.expect x s = .ok ((), s') ∧ At c q s' ∧ Quiet s' := by
  obtain ⟨s', hrun, hs'⟩ := h.eat hq
  exact ⟨s', by simp [Parser.expect, hrun], hs'⟩

theorem expectWord {w : String} {b : Bool} {t : List Char} (h : At c ⟨.word w, b, t⟩ s)
    (hq : Follows ⟨.word w, b, t⟩ q) :
    ∃ s', Parser.expectWord w s = .ok ((), s') ∧ At c q s' ∧ Quiet s' := by
  obtain ⟨s', hrun, hs'⟩ := h.eatWord hq
  exact ⟨s', by simp [Parser.expectWord, hrun], hs'⟩

/-- Behind a sign inside an element. -/
theorem expectBeforeText {x : String} {b : Bool} {t : List Char} (h : At c ⟨.punct x, b, t⟩ s)
    (hq : FollowsInside ⟨.punct x, b, t⟩ q) :
    ∃ s', Parser.expectBeforeText x s = .ok ((), s') ∧ At c q s' ∧ Quiet s' := by
  obtain ⟨s', hrun, hs'⟩ := h.nextInside hq
  exact ⟨s', by simp [Parser.expectBeforeText, h.tests, hrun], hs'⟩

/-- No decorator starts in front of anything but its sign. -/
theorem noDecorators (h : At c p s) (hp : p.kind.isSign ["@"] = false) :
    many (decorator g) s = .ok ([], s) :=
  many_of_none (by simp [decorator, h.misses, hp])

/-- No types stand in front of anything but an angle bracket. -/
theorem noTypeArguments (h : At c p s) (hp : p.kind.isSign ["<", "<<"] = false) :
    typeArguments g s = .ok ((), s) := by
  simp [typeArguments, angleList, atAngle, h.tests, hp]

end At

/-! ## Elements -/

/-- What a tag of one name refers to. -/
def tagOf (n : String) : Expr :=
  if n = "this" then .thisRef
  else if n.toList.contains '-' || n.toList.head?.any Text.isAsciiLower then .string n
  else .name n

theorem At.dashedName {n : String} {b : Bool} {t : List Char} (h : At c ⟨.word n, b, t⟩ s)
    (ht : Lexer.dashedTail t = ([], t)) (hq : Follows ⟨.word n, b, t⟩ q) :
    ∃ s', Parser.dashedName s = .ok (n, s') ∧ At c q s' ∧ Quiet s' := by
  obtain ⟨s', hrun, hs'⟩ := h.next hq
  refine ⟨s', ?_, hs'⟩
  have hsame : { s with
      token := { s.token with
        kind := .word (n ++ String.ofList (Lexer.dashedTail s.rest).1)
        stop := s.token.stop + (Lexer.dashedTail s.rest).1.length }
      rest := (Lexer.dashedTail s.rest).2 } = s := by
    have hkind := h.kind
    have hrest := h.rest
    cases s
    rename_i token rest _ _ _ _ _ _ _ _ _ _ _ _
    cases token
    simp_all
  simp [Parser.dashedName, h.tests, hsame, anyWord, hrun]

theorem At.tagName {n : String} {b : Bool} {t : List Char} (h : At c ⟨.word n, b, t⟩ s)
    (ht : Lexer.dashedTail t = ([], t)) (hq : Follows ⟨.word n, b, t⟩ q)
    (hend : q.kind.isSign [":", "."] = false) :
    ∃ s', Parser.tagName s = .ok ((n, some (tagOf n)), s') ∧ At c q s' ∧ Quiet s' := by
  obtain ⟨s₁, hrun, h₁, hquiet⟩ := h.dashedName ht hq
  have hcolon : q.kind.isSign [":"] = false := not_isSign_of_mem hend (by simp)
  have hpoint : q.kind.isSign ["."] = false := not_isSign_of_mem hend (by simp)
  by_cases hthis : n = "this"
  · exact ⟨s₁, by simp [Parser.tagName, h.tests, hrun, h₁.misses, h₁.tests, hcolon, hpoint, tagOf,
      hthis], h₁, hquiet⟩
  cases htext : n.toList with
  | nil =>
    refine ⟨_, ?_, h₁.record n, hquiet.comments, hquiet.pure, hquiet.effectless⟩
    simp [Parser.tagName, h.tests, hrun, h₁.misses, h₁.tests, hcolon, hpoint, tagOf, hthis, htext,
      Parser.record]
  | cons d u =>
    by_cases hbuiltIn : ('-' = d ∨ '-' ∈ u) ∨ Text.isAsciiLower d = true
    · refine ⟨s₁, ?_, h₁, hquiet⟩
      simp [Parser.tagName, h.tests, hrun, h₁.misses, h₁.tests, hcolon, hpoint, tagOf, hthis, htext,
        hbuiltIn]
    · refine ⟨_, ?_, h₁.record n, hquiet.comments, hquiet.pure, hquiet.effectless⟩
      simp [Parser.tagName, h.tests, hrun, h₁.misses, h₁.tests, hcolon, hpoint, tagOf, hthis, htext,
        hbuiltIn, Parser.record]

/-- An attribute with a text. -/
theorem attributeItem_reads {n v raw : String} {b b₁ b₂ : Bool} {t t₁ t₂ : List Char}
    (ht : Lexer.dashedTail t = ([], t)) (hsign : Follows ⟨.word n, b, t⟩ ⟨.punct "=", b₁, t₁⟩)
    (hvalue : FollowsBy attributeLexeme ⟨.punct "=", b₁, t₁⟩ ⟨.string v raw, b₂, t₂⟩)
    (hq : Follows ⟨.string v raw, b₂, t₂⟩ q) :
    Reads c (attributeItem g) ⟨.word n, b, t⟩ (fun offset => some (.attribute offset n (.text v)))
      q := by
  intro s h _
  obtain ⟨s₁, hrun₁, h₁, -⟩ := h.dashedName ht hsign
  obtain ⟨s₂, hrun₂, h₂, -⟩ := h₁.nextBy hvalue
  obtain ⟨s₃, hrun₃, h₃, hquiet⟩ := h₂.next hq
  have hkind : s.token.kind = .word n := h.kind
  have hkind₂ : s₂.token.kind = .string v raw := h₂.kind
  refine ⟨s.token.start, s₃, ?_, h₃, hquiet⟩
  simp [attributeItem, attributeValue, h.tests, hkind, hrun₁, h₁.misses, h₁.tests, hrun₂, h₂.tests,
    hkind₂, hrun₃]

/-- The attributes end at the end of the tag. -/
theorem At.noAttribute (h : At c p s) (hp : p.kind.isSign [">", "/"] = true) :
    attributeItem g s = .ok (none, s) := by
  have hkind := h.kind
  cases hk : p.kind with
  | punct x =>
    rw [hk] at hp hkind
    obtain rfl | rfl : x = ">" ∨ x = "/" := by simpa using hp
    · simp [attributeItem, h.tests, hkind]
    · simp [attributeItem, h.tests, hkind]
  | _ => simp [hk, TokenKind.isSign] at hp

/-- A component without attributes and children, inside another element. -/
theorem emptyElement_reads {n : String} {b b₁ b₂ b₃ : Bool} {t t₁ t₂ t₃ : List Char}
    (hname : Follows ⟨.punct "<", b, t⟩ ⟨.word n, b₁, t₁⟩)
    (ht : Lexer.dashedTail t₁ = ([], t₁))
    (hslash : Follows ⟨.word n, b₁, t₁⟩ ⟨.punct "/", b₂, t₂⟩)
    (hend : Follows ⟨.punct "/", b₂, t₂⟩ ⟨.punct ">", b₃, t₃⟩)
    (hq : FollowsInside ⟨.punct ">", b₃, t₃⟩ q) :
    Reads c (markupBody g true) ⟨.punct "<", b, t⟩ (fun _ => .element (tagOf n) [] []) q := by
  intro s h _
  obtain ⟨s₁, hrun₁, h₁, -⟩ := h.expect hname
  obtain ⟨s₂, hrun₂, h₂, -⟩ := h₁.tagName ht hslash rfl
  obtain ⟨s₃, hrun₃, h₃, -⟩ := h₂.eat hend
  obtain ⟨s₄, hrun₄, h₄, hquiet⟩ := h₃.expectBeforeText hq
  have hnone : many (attributeItem g) s₂ = .ok ([], s₂) := many_of_none (h₂.noAttribute rfl)
  refine ⟨0, s₄, ?_, h₄, hquiet⟩
  simp [markupBody, hrun₁, h₁.tests, hrun₂, h₂.tests,
    h₂.noTypeArguments, hnone, hrun₃, expectClosing, hrun₄]

/-! ### Children -/

theorem child_text_reads {raw : String} {b : Bool} {t : List Char}
    (hq : FollowsInside ⟨.markupText raw, b, t⟩ q) :
    Reads c (child g) ⟨.markupText raw, b, t⟩ (fun _ => some (.text raw)) q := by
  intro s h _
  obtain ⟨s₁, hrun₁, h₁, hquiet⟩ := h.nextInside hq
  exact ⟨0, s₁, by simp [child, h.tests, hrun₁], h₁, hquiet⟩

/-- What a look at the next token tells. -/
theorem At.peekNext (h : At c p s) (hq : Follows p q) {test : Token → Bool} {ans : Bool}
    (htest : ∀ t : Token, t.kind = q.kind → t.afterBreak = q.afterBreak → test t = ans) :
    Parser.peekNext test s = .ok (ans, s) := by
  obtain ⟨s₁, hrun₁, h₁, -⟩ := h.next hq
  have hans := htest s₁.token h₁.kind h₁.afterBreak
  simp [Parser.peekNext, peek, lookahead, h.tests, hrun₁, h₁.tests, hans]

theorem child_element_reads {b : Bool} {t : List Char} {m : Markup}
    (hname : Follows ⟨.punct "<", b, t⟩ r) (hr : r.kind ≠ .punct "/")
    (hm : Reads c (g.markup true) ⟨.punct "<", b, t⟩ (fun _ => m) q) :
    Reads c (child g) ⟨.punct "<", b, t⟩ (fun _ => some m) q := by
  intro s h hquiet
  obtain ⟨_, s₁, hrun₁, h₁⟩ := hm s h hquiet
  have hpeek : Parser.peekNext (fun t => t.kind == .punct "/") s = .ok (false, s) :=
    h.peekNext hname fun t ht _ => by simpa [ht] using hr
  exact ⟨0, s₁, by simp [child, h.tests, hpeek, hrun₁], h₁⟩

/-- The children end at a closing tag. -/
theorem At.noChild {b : Bool} {t : List Char} (h : At c ⟨.punct "<", b, t⟩ s)
    (hslash : Follows ⟨.punct "<", b, t⟩ r) (hr : r.kind = .punct "/") :
    child g s = .ok (none, s) := by
  have hpeek : Parser.peekNext (fun t => t.kind == .punct "/") s = .ok (true, s) :=
    h.peekNext hslash fun t ht _ => by simp [ht, hr]
  simp [child, h.tests, hpeek]

/-! ## Expressions -/

/-- An expression ends here: at a parenthesis or a semicolon. -/
def Closes (p : Place) : Prop := p.kind = .punct ")" ∨ p.kind = .punct ";"

namespace At

/-- No binary operator stands where an expression ends. -/
theorem noOperator (h : At c p s) (hp : Closes p) {level : Level} {offset : Nat} {e : Expr} :
    binaryStep g level offset e s = .ok (none, s) := by
  have hkind := h.kind
  obtain hk | hk := hp <;> rw [hk] at hkind <;>
    simp [binaryStep, joinAngle, operatorAt, h.tests, hk, hkind, binaryLevel?, binaryOperators]

/-- No assignment goes on where an expression ends. -/
theorem noAssignment (h : At c p s) (hp : Closes p) {again : Parser Expr} {offset : Nat}
    {e : Expr} : assignmentRest g again offset e s = .ok (e, s) := by
  obtain hk | hk := hp <;> simp [assignmentRest, h.tests, hk, assignOperators]

/-- No call and no member stands where an expression ends. -/
theorem noCall (h : At c p s) (hp : Closes p) {e : Expr} : callStep g e s = .ok (none, s) := by
  have hkind := h.kind
  obtain hk | hk := hp <;> rw [hk] at hkind <;>
    simp [callStep, memberStep, h.tests, h.misses, hk, hkind]

end At

/-- An operand that is a whole expression. -/
theorem assignment_reads {e : Nat → Expr} (hp : p.kind.isOneOf ["yield", "async"] = false)
    (hprivate : p.kind.isPrivate = false)
    (hguess : ∀ s, At c p s → guessArrow s = .ok (.no, s)) (hq : Closes q)
    (hunary : Reads c g.unary p e q) : Reads c (assignmentBody g false) p e q := by
  intro s h hquiet
  obtain ⟨offset, s₁, hrun, h₁, hquiet₁⟩ := hunary s h hquiet
  have hyield : p.kind.isOneOf ["yield"] = false := not_isOneOf_of_mem hp (by simp)
  have hasync : p.kind.isOneOf ["async"] = false := not_isOneOf_of_mem hp (by simp)
  have harrow : arrowFunction? g false g.assignment s = .ok (none, s) := by
    simp [arrowFunction?, hguess s h]
  have hbinary : binaryBody g Level.comma s = .ok (e offset, s₁) := by
    simp [binaryBody, h.tests, hprivate, hrun, grow_of_none (h₁.noOperator hq)]
  refine ⟨offset, s₁, ?_, h₁, hquiet₁⟩
  simp [assignmentBody, unmarkedAssignment, atYield, asyncArrow?, h.tests, hyield, hasync, harrow,
    hbinary, h₁.noAssignment hq, hquiet.pure, hquiet.effectless]

/-- An expression without commas behind it. -/
theorem expression_reads {e : Nat → Expr} (hq : Closes q) (h : Reads c g.assignment p e q) :
    Reads c (expression g) p e q := by
  intro s hs hquiet
  obtain ⟨offset, s₁, hrun, h₁, hquiet₁⟩ := h s hs hquiet
  have hcomma : q.kind.isSign [","] = false := by obtain hk | hk := hq <;> rw [hk] <;> rfl
  have hmore : many (do if ← eat "," then return some (← g.assignment) else return none) s₁ =
      .ok ([], s₁) := many_of_none (by simp [h₁.misses, hcomma])
  refine ⟨offset, s₁, ?_, h₁, hquiet₁⟩
  simp only [expression, bind_run, hrun, hmore, pure_run]
  rfl

/-- An element as an operand. -/
theorem unary_markup_reads {b : Bool} {t : List Char} {m : Nat → Markup}
    (h : Reads c (g.markup false) ⟨.punct "<", b, t⟩ m q) :
    Reads c (unaryBody g) ⟨.punct "<", b, t⟩ (fun offset => .markup (m offset)) q := by
  intro s hs hquiet
  obtain ⟨offset, s₁, hrun, h₁⟩ := h s hs hquiet
  exact ⟨offset, s₁, by simp [unaryBody, unarySigns, hs.tests, hrun], h₁⟩

/-- What is read as an operand, with nothing in front of it and no members behind it. -/
theorem leftHandSide_reads {e : Nat → Expr} (hp : p.kind.isOneOf ["new", "import"] = false)
    (hq : Closes q) (h : Reads c (operand g) p e q) : Reads c (leftHandSideBody g) p e q := by
  intro s hs hquiet
  obtain ⟨offset, s₁, hrun, h₁, hquiet₁⟩ := h s hs hquiet
  have hnew : p.kind.isOneOf ["new"] = false := not_isOneOf_of_mem hp (by simp)
  have himport : p.kind.isOneOf ["import"] = false := not_isOneOf_of_mem hp (by simp)
  have hnews : many newStep s = .ok ([], s) := by
    obtain ⟨ans, hans⟩ := peekNext_stays (fun t => t.kind == .punct ".") s
    exact many_of_none (by simp [newStep, hs.tests, hnew, hans])
  refine ⟨offset, s₁, ?_, h₁, hquiet₁⟩
  simp [leftHandSideBody, primary, hnews, hs.tests, callee, hnew, himport, hrun,
    grow_of_none (h₁.noCall hq)]

theorem postfix_reads {e : Nat → Expr} (hq : Closes q)
    (h : Reads c (leftHandSideBody g) p e q) : Reads c (postfixExpression g) p e q := by
  intro s hs hquiet
  obtain ⟨offset, s₁, hrun, h₁, hquiet₁⟩ := h s hs hquiet
  have hkind := h₁.kind
  refine ⟨offset, s₁, ?_, h₁, hquiet₁⟩
  obtain hk | hk := hq <;> rw [hk] at hkind <;>
    simp [postfixExpression, hs.tests, hrun, h₁.tests, hkind]

/-! ### Parentheses -/

/-- Kept faults change nothing about a place. -/
theorem At.keepFaults (h : At c p s) (hquiet : Quiet s) (offset : Nat) (f : TargetFaults) :
    ∃ s', Parser.keepFaults offset f s = .ok ((), s') ∧ At c p s' ∧ Quiet s' :=
  ⟨_, rfl, { h with }, ⟨hquiet.comments, hquiet.pure, hquiet.effectless⟩⟩

/-- A list of one item, up to its closing sign. -/
theorem listAndTrail_reads {α : Type} {item : Parser α} {a : Nat → α} {x : String}
    (separator : String) {b : Bool} {t : List Char} (hp : p.kind.isSign [x] = false)
    (hend : p.kind ≠ .eof) (hbad : p.kind ≠ .bad) (h : Reads c item p a ⟨.punct x, b, t⟩) :
    Reads c (listAndTrail x separator item) p (fun offset => ([a offset], false))
      ⟨.punct x, b, t⟩ := by
  intro s hs hquiet
  obtain ⟨offset, s₁, hrun, h₁, hquiet₁⟩ := h s hs hquiet
  have hstart : endsList x s = .ok (false, s) := by
    simp [endsList, hs.tests, hs.kind, hp, hend, hbad]
  have hstop : endsList x s₁ = .ok (true, s₁) := by simp [endsList, h₁.tests]
  refine ⟨offset, s₁, ?_, h₁, hquiet₁⟩
  simp [listAndTrail, listFrom, hstart, hrun, hstop]

/-- An element in parentheses. -/
theorem parenthesized_reads {b b₁ : Bool} {t t₁ : List Char} {m : Nat → Markup}
    (hopen : Follows ⟨.punct "(", b, t⟩ p) (hp : p.kind.isSign [")"] = false)
    (hend : p.kind ≠ .eof) (hbad : p.kind ≠ .bad)
    (h : Reads { c with allowIn := true, decorator := false } g.assignment p
      (fun offset => .markup (m offset)) ⟨.punct ")", b₁, t₁⟩)
    (hq : Follows ⟨.punct ")", b₁, t₁⟩ q) :
    Reads c (parenthesized g) ⟨.punct "(", b, t⟩ (fun offset => .paren (.markup (m offset)))
      q := by
  intro s hs _
  obtain ⟨s₁, hrun₁, h₁, hquiet₁⟩ := hs.expect hopen
  obtain ⟨offset, s₂, hrun₂, h₂, -⟩ := Reads.within
    (f := fun c => { c with allowIn := true, decorator := false })
    (listAndTrail_reads "," hp hend hbad h) s₁ h₁ hquiet₁
  obtain ⟨s₃, hrun₃, h₃, hquiet₃⟩ := h₂.expect hq
  obtain ⟨s₄, hrun₄, h₄⟩ := h₃.keepFaults hquiet₃ s.token.start
    (.stopAt .invalidTarget s₁.token.start)
  refine ⟨offset, s₄, ?_, h₄⟩
  simp only [parenthesized, bind_run, hs.tests, hrun₁, h₁.tests, hrun₂]
  simp [trailingComma, hrun₃, faultsOf, isLiteralPattern, hrun₄]

theorem unary_parenthesis_reads {b : Bool} {t : List Char} {e : Nat → Expr} (hq : Closes q)
    (h : Reads c (parenthesized g) ⟨.punct "(", b, t⟩ e q) :
    Reads c (unaryBody g) ⟨.punct "(", b, t⟩ e q := by
  have hoperand : Reads c (operand g) ⟨.punct "(", b, t⟩ e q := by
    intro s hs hquiet
    obtain ⟨offset, s₁, hrun, h₁⟩ := h s hs hquiet
    exact ⟨offset, s₁, by simp [operand, hs.tests, hrun], h₁⟩
  intro s hs hquiet
  obtain ⟨offset, s₁, hrun, h₁⟩ :=
    postfix_reads hq (leftHandSide_reads rfl hq hoperand) s hs hquiet
  exact ⟨offset, s₁, by simp [unaryBody, unarySigns, hs.tests, hrun], h₁⟩

/-! ### What is no arrow function -/

/-- Parentheses around an element are not those of an arrow function. -/
theorem At.guessParenthesis {b b₁ : Bool} {t t₁ : List Char} (h : At c ⟨.punct "(", b, t⟩ s)
    (hq : Follows ⟨.punct "(", b, t⟩ ⟨.punct "<", b₁, t₁⟩) : guessArrow s = .ok (.no, s) := by
  obtain ⟨s₁, hrun₁, h₁, -⟩ := h.eat hq
  simp [guessArrow, lookahead, h.misses, h.tests, hrun₁,
    Parser.guessParenthesis, h₁.misses, h₁.tests]

/-- An angle bracket in front of two words opens an element. -/
theorem At.guessAngle {w v : String} {b b₁ b₂ : Bool} {t t₁ t₂ : List Char}
    (h : At c ⟨.punct "<", b, t⟩ s) (hw : Follows ⟨.punct "<", b, t⟩ ⟨.word w, b₁, t₁⟩)
    (hconst : w ≠ "const") (hv : Follows ⟨.word w, b₁, t₁⟩ ⟨.word v, b₂, t₂⟩)
    (hextends : v ≠ "extends") : guessArrow s = .ok (.no, s) := by
  obtain ⟨s₁, hrun₁, h₁, -⟩ := h.eat hw
  obtain ⟨s₂, hrun₂, h₂, -⟩ := h₁.next hv
  cases hname : isReserved w <;>
    simp [guessArrow, lookahead, h.misses, h.tests, hrun₁,
      Parser.guessAngle, h₁.misses, h₁.tests, hconst, hname, hrun₂, h₂.misses,
      h₂.tests, hextends, ArrowGuess.ofBool]

/-! ## Statements -/

/-- A statement that returns something in parentheses. -/
theorem return_reads {b b₂ : Bool} {t t₁ t₂ : List Char} {e : Nat → Expr}
    (hreturn : c.allowReturn = true)
    (hopen : Follows ⟨.word "return", b, t⟩ ⟨.punct "(", false, t₁⟩)
    (h : Reads { c with allowIn := true } g.assignment ⟨.punct "(", false, t₁⟩ e
      ⟨.punct ";", b₂, t₂⟩)
    (hq : Follows ⟨.punct ";", b₂, t₂⟩ q) :
    Reads c (statementBody g false) ⟨.word "return", b, t⟩
      (fun offset => .returnStmt (some (e offset))) q := by
  intro s hs hquiet
  obtain ⟨s₁, hrun₁, h₁, hquiet₁⟩ := hs.next hopen
  obtain ⟨offset, s₂, hrun₂, h₂, -⟩ := Reads.within (f := fun c => { c with allowIn := true })
    (expression_reads (.inr rfl) h) s₁ h₁ hquiet₁
  obtain ⟨s₃, hrun₃, h₃⟩ := h₂.eat hq
  have hstays : mayEndStatement s₁ = .ok (false, s₁) := by
    have hkind₁ : s₁.token.kind = .punct "(" := h₁.kind
    have hline : s₁.token.afterBreak = false := h₁.afterBreak
    simp [mayEndStatement, h₁.tests, hkind₁, hline]
  have hends : endStatement s₂ = .ok ((), s₃) := by
    have hkind₂ : s₂.token.kind = .punct ";" := h₂.kind
    simp [endStatement, mayEndStatement, h₂.tests, hkind₂, hrun₃]
  have hkind : s.token.kind = .word "return" := hs.kind
  refine ⟨offset, s₃, ?_, h₃⟩
  simp [statementBody, hs.tests, hkind, wordStatement, reservedStatement, returnStatement, hrun₁,
    hstays, expressionWithIn, hrun₂, hends, h₃.1.tests, hreturn, hquiet.comments,
    hquiet.effectless]

/-! ## Functions -/

/-- A body of one statement that starts with a word. -/
theorem functionBody_reads {w : String} {b b₁ b₂ : Bool} {t t₁ t₂ : List Char} {e : Nat → Stmt}
    (hopen : Follows ⟨.punct "\x7b", b, t⟩ ⟨.word w, b₁, t₁⟩)
    (h : Reads { c with allowReturn := true, noConditionalType := false, decorator := false }
      (g.statement false) ⟨.word w, b₁, t₁⟩ e ⟨.punct "\x7d", b₂, t₂⟩)
    (hq : Follows ⟨.punct "\x7d", b₂, t₂⟩ q) :
    Reads c (functionBody g) ⟨.punct "\x7b", b, t⟩ (fun offset => [e offset]) q := by
  intro s hs _
  have hbody : Reads
      { c with allowReturn := true, noConditionalType := false, decorator := false }
      (bodyStatements g endsStatements) ⟨.word w, b₁, t₁⟩ (fun offset => [e offset])
      ⟨.punct "\x7d", b₂, t₂⟩ := by
    intro s₁ h₁ hquiet₁
    obtain ⟨offset, s₂, hrun₂, h₂, hquiet₂⟩ := h s₁ h₁ hquiet₁
    have hfirst : bodyStep g endsStatements ([], true) s₁ = .ok (some ([e offset], false), s₂) := by
      simp [bodyStep, endsStatements, headStatement, h₁.tests, h₁.kind, hrun₂]
    have hlast : bodyStep g endsStatements ([e offset], false) s₂ = .ok (none, s₂) := by
      simp [bodyStep, endsStatements, h₂.tests]
    have hgrow := (Grows.step hfirst .refl).grow hlast (by have := h₁.room; omega)
    exact ⟨offset, s₂, by simp [bodyStatements, hgrow, h₂.tests, hquiet₂.comments], h₂, hquiet₂⟩
  obtain ⟨s₁, hrun₁, h₁, hquiet₁⟩ := hs.expect hopen
  obtain ⟨offset, s₂, hrun₂, h₂, -⟩ := Reads.within
    (f := fun c => { c with allowReturn := true, noConditionalType := false, decorator := false })
    hbody s₁ h₁ hquiet₁
  obtain ⟨s₃, hrun₃, h₃⟩ := h₂.expect hq
  exact ⟨offset, s₃, by simp [functionBody, hrun₁, hrun₂, hrun₃], h₃⟩

/-- A function without parameters, from its opening parenthesis on. -/
theorem functionParts_reads (kind : FunctionKind) {isAsync isGenerator : Bool} {b b₁ b₂ : Bool}
    {t t₁ t₂ : List Char} {body : Nat → List Stmt}
    (hclose : Follows ⟨.punct "(", b, t⟩ ⟨.punct ")", b₁, t₁⟩)
    (hopen : Follows ⟨.punct ")", b₁, t₁⟩ ⟨.punct "\x7b", b₂, t₂⟩)
    (h : Reads (inFunction isAsync isGenerator c) (functionBody g) ⟨.punct "\x7b", b₂, t₂⟩ body q)
    {s : ParserState} (hs : At c ⟨.punct "(", b, t⟩ s) :
    ∃ offset parts s', functionParts g kind isAsync isGenerator s = .ok (parts, s') ∧
      parts.params = [] ∧ parts.body = some (body offset) ∧ At c q s' ∧ Quiet s' := by
  have hs₀ := hs.inside (inFunction isAsync isGenerator c)
  obtain ⟨s₁, hrun₁, h₁, -⟩ := hs₀.expect hclose
  obtain ⟨s₂, hrun₂, h₂, hquiet₂⟩ := h₁.expect hopen
  obtain ⟨offset, s₃, hrun₃, h₃, hquiet₃⟩ := h s₂ h₂ hquiet₂
  have hparameters : parameters g kind { s with context := inFunction isAsync isGenerator c } =
      .ok (([], none), s₂) := by
    simp [parameters, hrun₁, thisParameter, h₁.tests, restListTo, endsList, hrun₂]
  refine ⟨offset, ⟨none, s.token.start, [], none, some (body offset)⟩, _, ?_, rfl, rfl,
    h₃.inside c, hquiet₃.comments, hquiet₃.pure, hquiet₃.effectless⟩
  simp [functionParts, within_run, hs.context, hs₀.tests, atAngle, hparameters, returnType,
    h₂.tests, h₂.misses, hrun₃]

/-- A name that is no operator anywhere. -/
theorem variableName_reads {n : String} (hawait : n ≠ "await") (hyield : n ≠ "yield") {b : Bool}
    {t : List Char} (hq : Follows ⟨.word n, b, t⟩ q) :
    Reads c (variableName n) ⟨.word n, b, t⟩ (fun _ => n) q := by
  intro s hs _
  obtain ⟨s₁, hrun₁, h₁⟩ := (hs.record n).next hq
  exact ⟨0, s₁, by simp [variableName, hs.tests, hawait, hyield, record, hrun₁], h₁⟩

theorem functionName_reads {site : FunctionSite} (hsite : site ≠ .expression)
    (isAsync isGenerator : Bool) {n : String} (hn : isReserved n = false) (hawait : n ≠ "await")
    (hyield : n ≠ "yield") {b : Bool} {t : List Char} (hq : Follows ⟨.word n, b, t⟩ q) :
    Reads c (functionName site isAsync isGenerator) ⟨.word n, b, t⟩ (fun _ => some n) q := by
  intro s hs hquiet
  obtain ⟨_, s₁, hrun₁, h₁⟩ :=
    Reads.within (f := id) (variableName_reads hawait hyield hq) s hs hquiet
  refine ⟨0, s₁, ?_, h₁⟩
  have hsame : (fun c : Context => if site = .expression then
      { c with allowAwait := isAsync, allowYield := isGenerator } else c) = id := by
    funext c
    simp [hsite]
  simp [functionName, hs.tests, hn, hsame, hrun₁]

/-- A function with a name and without parameters, as a declaration or as the default export. -/
theorem function_reads {site : FunctionSite} (hsite : site ≠ .expression) {n : String}
    (hn : isReserved n = false) (hawait : n ≠ "await") (hyield : n ≠ "yield")
    {b b₁ b₂ b₃ b₄ : Bool} {t t₁ t₂ t₃ t₄ : List Char} {body : Nat → List Stmt}
    (hname : Follows ⟨.word "function", b, t⟩ ⟨.word n, b₁, t₁⟩)
    (hparams : Follows ⟨.word n, b₁, t₁⟩ ⟨.punct "(", b₂, t₂⟩)
    (hclose : Follows ⟨.punct "(", b₂, t₂⟩ ⟨.punct ")", b₃, t₃⟩)
    (hopen : Follows ⟨.punct ")", b₃, t₃⟩ ⟨.punct "\x7b", b₄, t₄⟩)
    (h : Reads (inFunction false false c) (functionBody g) ⟨.punct "\x7b", b₄, t₄⟩ body q) :
    Reads c (function g site false) ⟨.word "function", b, t⟩
      (fun offset => some (.function (some n) false false [] (body offset))) q := by
  intro s hs _
  obtain ⟨s₁, hrun₁, h₁, hquiet₁⟩ := hs.expectWord hname
  obtain ⟨_, s₂, hrun₂, h₂, -⟩ :=
    functionName_reads hsite false false hn hawait hyield hparams s₁ h₁ hquiet₁
  obtain ⟨offset, parts, s₃, hrun₃, hnone, hbody, h₃⟩ :=
    functionParts_reads .plain hclose hopen h h₂
  refine ⟨offset, s₃, ?_, h₃⟩
  simp [function, hrun₁, h₁.misses, hrun₂, hrun₃, hnone, hbody]

/-- A default export at its first word. -/
theorem At.exportDefault {b b₁ b₂ : Bool} {t t₁ t₂ : List Char} {f : Nat → Expr}
    (hs : At c ⟨.word "export", b, t⟩ s)
    (hdefault : Follows ⟨.word "export", b, t⟩ ⟨.word "default", b₁, t₁⟩)
    (hfunction : Follows ⟨.word "default", b₁, t₁⟩ ⟨.word "function", b₂, t₂⟩)
    (h : Reads c (function g .defaultExport false) ⟨.word "function", b₂, t₂⟩
      (fun offset => some (f offset)) q) :
    ∃ offset s', exportDeclaration g [] 0 s = .ok (.exportDefault (.functionDecl (f offset)), s') ∧
      At c q s' ∧ Quiet s' := by
  obtain ⟨s₁, hrun₁, h₁, -⟩ := hs.next hdefault
  obtain ⟨s₂, hrun₂, h₂, hquiet₂⟩ := h₁.eatWord hfunction
  obtain ⟨offset, s₃, hrun₃, h₃⟩ := h s₂ h₂ hquiet₂
  obtain ⟨ans, hans⟩ := peekNext_stays (fun t => t.kind == .word "class") s₂
  have hdecorators : many (decorator g) s₂ = .ok ([], s₂) := h₂.noDecorators (by simp)
  refine ⟨offset, s₃, ?_, h₃⟩
  simp [exportDeclaration, hs.tests, hrun₁, h₁.tests, hrun₂, Parser.defaultExport, hdecorators,
    h₂.tests, hans, defaultFunction, functionDeclaration, hrun₃]

end LivePreview.Script.Parser
