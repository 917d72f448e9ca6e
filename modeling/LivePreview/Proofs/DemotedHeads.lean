import LivePreview.Proofs.LexedNames
import LivePreview.Proofs.SimpleForms
/-!
# Declarations at the head of an item

What the parser makes of an item that starts with a function of a given name, with an exported
function, or with a constant that is set to a name. Only the head of the item is known: whatever
follows, an item that is read at all declares that name.
-/
namespace LivePreview.Script

/-- A name that a variable may have anywhere in a module, and that begins nothing else. -/
structure IsPlainName (n : String) : Prop where
  name : IsName n.toList
  reserved : isReserved n = false
  await : n ≠ "await"
  yield : n ≠ "yield"
  async : n ≠ "async"

/-- A function with a name, perhaps with a mark. -/
def IsFunctionNamed (n : String) (f : Expr) : Prop :=
  ∃ params body, f = .function (some n) false false params body ∨
    f = .effectless (.function (some n) false false params body)

/-- An item that declares a function of a name, or one of its signatures. -/
def DeclaresFunction (n : String) (item : Stmt) : Prop :=
  (∃ f, IsFunctionNamed n f ∧ item.bare = .functionDecl f) ∨
    ∃ names, item.bare = .erased false names

/-- An item that exports a function under its name, or one of its signatures. -/
def ExportsFunction (n : String) (item : Stmt) : Prop :=
  (∃ f, IsFunctionNamed n f ∧ item.bare = .exportDecl (.functionDecl f)) ∨
    ∃ names, item.bare = .erased true names

/-- An item that sets a constant to a name. -/
def SetsConstant (constant n : String) (item : Stmt) : Prop :=
  item.bare = .declaration .constant [.initialized (.name constant) (.name n)]

namespace Parser

variable {g : Grammar} {c : Context} {n : String} {q : Place} {s s' : ParserState} {st : Stmt}

/-! ## Functions -/

/-- A declared function with a name has that name, if it is read at all. -/
theorem At.functionDeclaration_cases (hn : IsPlainName n) {b b₁ : Bool} {t t₁ : List Char}
    (hs : At c ⟨.word "function", b, t⟩ s)
    (hname : Follows ⟨.word "function", b, t⟩ ⟨.word n, b₁, t₁⟩)
    (hq : Follows ⟨.word n, b₁, t₁⟩ q)
    (hrun : functionDeclaration g .declaration false false s = .ok (st, s')) :
    (∃ params body, st = .functionDecl (.function (some n) false false params body)) ∨
      st = .erased false [] := by
  obtain ⟨s₁, hrun₁, h₁, hquiet₁⟩ := hs.expectWord hname
  obtain ⟨_, s₂, hrun₂, h₂, -⟩ :=
    functionName_reads (by simp : FunctionSite.declaration ≠ .expression) false false hn.reserved
      hn.await hn.yield hq s₁ h₁ hquiet₁
  cases hparts : functionParts g .plain false false s₂ with
  | error d => simp [functionDeclaration, function, hrun₁, h₁.misses, hrun₂, hparts] at hrun
  | ok r =>
    obtain ⟨parts, s₃⟩ := r
    have hfunction : function g .declaration false s =
        .ok (parts.body.map (.function (some n) false false parts.params), s₃) := by
      simp [function, hrun₁, h₁.misses, hrun₂, hparts]
    cases hbody : parts.body with
    | some body =>
      have hst : .functionDecl (.function (some n) false false parts.params body) = st ∧
          s₃ = s' := by
        simpa [functionDeclaration, hfunction, hbody] using hrun
      exact .inl ⟨parts.params, body, hst.1.symm⟩
    | none =>
      cases hend : endStatement s₃ with
      | error d => simp [functionDeclaration, hfunction, hbody, hend] at hrun
      | ok r =>
        have hst : .erased false [] = st ∧ r.2 = s' := by
          simpa [functionDeclaration, hfunction, hbody, hend] using hrun
        exact .inr hst.1.symm

/-- A statement is what its word makes of it, with marks and comments around it. -/
theorem At.statement_word {w : String} {b : Bool} {t : List Char} {single : Bool}
    (hs : At c ⟨.word w, b, t⟩ s) (hrun : statementBody g single s = .ok (st, s')) :
    ∃ inner, wordStatement g single w s = .ok (inner, s') ∧
      (st.bare = inner.bare ∨ st.bare = (markStatement inner).bare) := by
  have hkind : s.token.kind = .word w := hs.kind
  cases hword : wordStatement g single w s with
  | error d => simp [statementBody, hs.tests, hkind, hword] at hrun
  | ok r =>
    obtain ⟨inner, s₁⟩ := r
    have hst : (if s.token.comments.isEmpty then
        if s.token.effectless then markStatement inner else inner
        else .commented s.token.comments
          (if s.token.effectless then markStatement inner else inner)) = st ∧ s₁ = s' := by
      simpa [statementBody, hs.tests, hkind, hword] using hrun
    obtain ⟨rfl, rfl⟩ := hst
    refine ⟨inner, rfl, ?_⟩
    cases s.token.effectless <;> cases s.token.comments.isEmpty <;> simp [Stmt.bare]

/-- A statement at the word `function` is the declaration there. -/
theorem At.wordStatement_function {b : Bool} {t : List Char}
    (hs : At c ⟨.word "function", b, t⟩ s)
    (hrun : wordStatement g false "function" s = .ok (st, s')) :
    functionDeclaration g .declaration false false s = .ok (st, s') := by
  cases hdeclared : functionDeclaration g .declaration false false s with
  | error d =>
    simp [wordStatement, reservedStatement, functionStatement, hs.tests, hs.misses, hdeclared]
      at hrun
  | ok r =>
    obtain ⟨st', s₁⟩ := r
    have hstatement : functionStatement g false s = .ok (st', s₁) := by
      have hasync : Parser.eatWord "async" s = .ok (false, s) := hs.misses.2 "async" (by simp)
      simp only [functionStatement, bind_run, hs.tests, hasync, hdeclared]
      split <;> simp
    have hword : wordStatement g false "function" s = .ok (st', s₁) := by
      simp [wordStatement, reservedStatement, hstatement]
    exact hword.symm.trans hrun

/-- A statement that starts with a function of a name declares it. -/
theorem At.declaresFunction (hn : IsPlainName n) {b b₁ : Bool} {t t₁ : List Char}
    (hs : At c ⟨.word "function", b, t⟩ s)
    (hname : Follows ⟨.word "function", b, t⟩ ⟨.word n, b₁, t₁⟩)
    (hq : Follows ⟨.word n, b₁, t₁⟩ q) (hrun : statementBody g false s = .ok (st, s')) :
    DeclaresFunction n st := by
  obtain ⟨inner, hword, hbare⟩ := hs.statement_word hrun
  obtain ⟨params, body, rfl⟩ | rfl :=
    hs.functionDeclaration_cases hn hname hq (hs.wordStatement_function hword)
  · left
    obtain hbare | hbare := hbare
    · exact ⟨_, ⟨params, body, .inl rfl⟩, hbare⟩
    · exact ⟨_, ⟨params, body, .inr rfl⟩, hbare⟩
  · right
    obtain hbare | hbare := hbare
    · exact ⟨_, hbare⟩
    · exact ⟨_, hbare⟩

/-- What an exported declaration is. -/
def exportedForm : Stmt → Stmt
  | .erased _ names => .erased true names
  | .importAlias _ name target => .importAlias true name target
  | st => .exportDecl st

/-- A statement at the word `export` in front of a function exports the declaration there. -/
theorem At.wordStatement_export {b b₁ : Bool} {t t₁ : List Char}
    (hs : At c ⟨.word "export", b, t⟩ s)
    (hfunction : Follows ⟨.word "export", b, t⟩ ⟨.word "function", b₁, t₁⟩)
    (hrun : wordStatement g false "export" s = .ok (st, s')) :
    ∃ s₁ inner, At c ⟨.word "function", b₁, t₁⟩ s₁ ∧
      functionDeclaration g .declaration false false s₁ = .ok (inner, s') ∧
      st = exportedForm inner := by
  obtain ⟨s₁, hrun₁, h₁, -⟩ := hs.next hfunction
  have hdecorators : many (decorator g) s₁ = .ok ([], s₁) := h₁.noDecorators (by simp)
  have hmodifiers : declarationModifiers s₁ = .ok ([], s₁) :=
    grow_of_none (by simp [oneDeclarationModifier, h₁.tests, modifierWords])
  have hloose : recordLoose s₁ = .ok ((), s₁) := by simp [recordLoose, h₁.tests]
  have hdeclaration {offset : Nat} : declaration g [] offset s₁ =
      functionDeclaration g .declaration false false s₁ := by
    simp [declaration, declarationBody, allowOnly, Modifiers.has, hmodifiers, h₁.tests]
  have hexport : wordStatement g false "export" s = exportedDeclaration g [] 0 s₁ := by
    cases hexported : exportedDeclaration g [] 0 s₁ <;>
      simp [wordStatement, reservedStatement, exportDeclaration, hs.tests, hrun₁, h₁.tests,
        h₁.misses, hexported]
  cases hdeclared : functionDeclaration g .declaration false false s₁ with
  | error d =>
    simp [hexport, exportedDeclaration, h₁.tests, hdecorators, hloose, hdeclaration, hdeclared]
      at hrun
  | ok r =>
    obtain ⟨inner, s₂⟩ := r
    have hexported : exportedDeclaration g [] 0 s₁ = .ok (exportedForm inner, s₂) := by
      simp [exportedDeclaration, h₁.tests, hdecorators, hloose, hdeclaration, hdeclared]
      cases inner <;> rfl
    have heq := (hexport.trans hexported).symm.trans hrun
    simp only [Except.ok.injEq, Prod.mk.injEq] at heq
    exact ⟨s₁, inner, h₁, by rw [hdeclared, heq.2], heq.1.symm⟩

/-- A statement that starts with an exported function of a name exports it. -/
theorem At.exportsFunction (hn : IsPlainName n) {b b₁ b₂ : Bool} {t t₁ t₂ : List Char}
    (hs : At c ⟨.word "export", b, t⟩ s)
    (hfunction : Follows ⟨.word "export", b, t⟩ ⟨.word "function", b₁, t₁⟩)
    (hname : Follows ⟨.word "function", b₁, t₁⟩ ⟨.word n, b₂, t₂⟩)
    (hq : Follows ⟨.word n, b₂, t₂⟩ q) (hrun : statementBody g false s = .ok (st, s')) :
    ExportsFunction n st := by
  obtain ⟨inner, hword, hbare⟩ := hs.statement_word hrun
  obtain ⟨s₁, declared, h₁, hdeclared, rfl⟩ := hs.wordStatement_export hfunction hword
  obtain ⟨params, body, rfl⟩ | rfl := h₁.functionDeclaration_cases hn hname hq hdeclared
  · left
    obtain hbare | hbare := hbare
    · exact ⟨_, ⟨params, body, .inl rfl⟩, hbare⟩
    · exact ⟨_, ⟨params, body, .inr rfl⟩, hbare⟩
  · right
    obtain hbare | hbare := hbare
    · exact ⟨_, hbare⟩
    · exact ⟨_, hbare⟩

/-! ## Constants -/

/-- A name alone is an expression in front of a semicolon. -/
theorem name_reads (hn : IsPlainName n) {b b₁ : Bool} {t t₁ : List Char}
    (hq : Follows ⟨.word n, b, t⟩ ⟨.punct ";", b₁, t₁⟩) :
    Reads c (assignmentBody (Grammar.deeper g) false) ⟨.word n, b, t⟩ (fun _ => .name n)
      ⟨.punct ";", b₁, t₁⟩ := by
  have hne {w : String} (hw : isReserved w = true) : n ≠ w := by
    rintro rfl
    simp [hn.reserved] at hw
  have hoperand : Reads c (operand g) ⟨.word n, b, t⟩ (fun _ => .name n) ⟨.punct ";", b₁, t₁⟩ := by
    intro s hs hquiet
    obtain ⟨_, s₁, hrun₁, h₁⟩ := variableName_reads hn.await hn.yield hq s hs hquiet
    refine ⟨0, s₁, ?_, h₁⟩
    simp [operand, hs.tests, wordExpression, atAsyncFunction, referenceName, hn.reserved, hn.async,
      hne (w := "this") (by decide), hne (w := "null") (by decide), hne (w := "true") (by decide),
      hne (w := "false") (by decide), hne (w := "super") (by decide),
      hne (w := "function") (by decide), hne (w := "class") (by decide), hrun₁]
  have hunary : Reads c (unaryBody g) ⟨.word n, b, t⟩ (fun _ => .name n) ⟨.punct ";", b₁, t₁⟩ := by
    intro s hs hquiet
    have hleft := leftHandSide_reads (by simp [hne (w := "new") (by decide),
      hne (w := "import") (by decide)]) (.inr rfl) hoperand
    obtain ⟨_, s₁, hrun₁, h₁⟩ := postfix_reads (.inr rfl) hleft s hs hquiet
    refine ⟨0, s₁, ?_, h₁⟩
    simp [unaryBody, hs.tests, unaryWords, hne (w := "typeof") (by decide),
      hne (w := "void") (by decide), hne (w := "delete") (by decide), hn.await, hrun₁]
  have hguess (s : ParserState) (hs : At c ⟨.word n, b, t⟩ s) : guessArrow s = .ok (.no, s) := by
    simp [guessArrow, lookahead, hs.misses, hs.tests, hn.async]
  exact assignment_reads (by simp [hn.yield, hn.async]) (by simp) hguess (.inr rfl) hunary

theorem bindingTarget_reads (hn : IsPlainName n) {b : Bool} {t : List Char}
    (hq : Follows ⟨.word n, b, t⟩ q) :
    Reads c (bindingTargetBody g) ⟨.word n, b, t⟩ (fun _ => .name n) q := by
  intro s hs hquiet
  obtain ⟨_, s₁, hrun₁, h₁⟩ := variableName_reads hn.await hn.yield hq s hs hquiet
  refine ⟨0, s₁, ?_, h₁⟩
  simp [bindingTargetBody, hs.misses, bindingName, hs.tests, hn.reserved, hrun₁]

/-- A constant that is set to a name, in front of a semicolon. -/
theorem declarator_reads {m : String} (hm : IsPlainName m) (hn : IsPlainName n)
    {b b₁ b₂ b₃ : Bool} {t t₁ t₂ t₃ : List Char}
    (hequals : Follows ⟨.word m, b, t⟩ ⟨.punct "=", b₁, t₁⟩)
    (hvalue : Follows ⟨.punct "=", b₁, t₁⟩ ⟨.word n, b₂, t₂⟩)
    (hend : Follows ⟨.word n, b₂, t₂⟩ ⟨.punct ";", b₃, t₃⟩) :
    Reads c (declarator (Nat.repeat Grammar.deeper 2 g) .constant) ⟨.word m, b, t⟩
      (fun _ => ⟨.initialized (.name m) (.name n), none⟩) ⟨.punct ";", b₃, t₃⟩ := by
  intro s hs hquiet
  obtain ⟨_, s₁, hrun₁, h₁, -⟩ :
      ∃ o s', (Nat.repeat Grammar.deeper 2 g).bindingTarget s = .ok (.name m, s') ∧
        At c ⟨.punct "=", b₁, t₁⟩ s' ∧ Quiet s' := bindingTarget_reads hm hequals s hs hquiet
  obtain ⟨s₂, hrun₂, h₂, hquiet₂⟩ := h₁.eat hvalue
  obtain ⟨_, s₃, hrun₃, h₃⟩ :
      ∃ o s', (Nat.repeat Grammar.deeper 2 g).assignment s₂ = .ok (.name n, s') ∧
        At c ⟨.punct ";", b₃, t₃⟩ s' ∧ Quiet s' := name_reads hn hend s₂ h₂ hquiet₂
  refine ⟨0, s₃, ?_, h₃⟩
  simp [declarator, hs.tests, hrun₁, h₁.tests, h₁.misses, typeAnnotation, hrun₂, hrun₃,
    checkDefinite, h₃.1.tests, withDefault]

/-- A list of one item. -/
theorem commaList_reads {α : Type} {item : Parser α} {p : Place} {a : Nat → α} (hq : Closes q)
    (h : Reads c item p a q) : Reads c (commaList item) p (fun offset => [a offset]) q := by
  intro s hs hquiet
  obtain ⟨offset, s₁, hrun₁, h₁⟩ := h s hs hquiet
  have hcomma : q.kind.isSign [","] = false := by obtain hk | hk := hq <;> rw [hk] <;> rfl
  have hmore : many (do if ← eat "," then return some (← item) else return none) s₁ =
      .ok ([], s₁) := many_of_none (by simp [h₁.1.misses, hcomma])
  refine ⟨offset, s₁, ?_, h₁⟩
  simp only [commaList, bind_run, hrun₁, hmore, pure_run]

/-- A semicolon ends a statement, whatever follows. -/
theorem At.endStatement {b : Bool} {t : List Char} (hs : At c ⟨.punct ";", b, t⟩ s) :
    ∃ s', Parser.endStatement s = .ok ((), s') := by
  have hkind : s.token.kind = .punct ";" := hs.kind
  obtain ⟨s', hrun⟩ : ∃ s', advanceName s = .ok ((), s') := ⟨_, rfl⟩
  exact ⟨s', by simp [Parser.endStatement, mayEndStatement, Parser.eat, hs.tests, hkind, hrun]⟩

/-- A statement that sets a constant to a name. -/
theorem At.setsConstant {m : String} (hm : IsPlainName m) (hn : IsPlainName n)
    {b b₁ b₂ b₃ b₄ : Bool} {t t₁ t₂ t₃ t₄ : List Char} (hs : At c ⟨.word "const", b, t⟩ s)
    (hname : Follows ⟨.word "const", b, t⟩ ⟨.word m, b₁, t₁⟩)
    (hequals : Follows ⟨.word m, b₁, t₁⟩ ⟨.punct "=", b₂, t₂⟩)
    (hvalue : Follows ⟨.punct "=", b₂, t₂⟩ ⟨.word n, b₃, t₃⟩)
    (hend : Follows ⟨.word n, b₃, t₃⟩ ⟨.punct ";", b₄, t₄⟩)
    (hrun : statementBody (Nat.repeat Grammar.deeper 2 g) false s = .ok (st, s')) :
    SetsConstant m n st := by
  obtain ⟨inner, hword, hbare⟩ := hs.statement_word hrun
  obtain ⟨s₁, hrun₁, h₁, hquiet₁⟩ := hs.next hname
  have hlist : Reads c
      (commaList do
        let d ← declarator (Nat.repeat Grammar.deeper 2 g) .constant
        checkValue d
        return d.target)
      ⟨.word m, b₁, t₁⟩ (fun _ => [.initialized (.name m) (.name n)]) ⟨.punct ";", b₄, t₄⟩ := by
    refine commaList_reads (.inr rfl) fun s hs hquiet => ?_
    obtain ⟨_, s', hrun', h'⟩ := declarator_reads (g := g) hm hn hequals hvalue hend s hs hquiet
    exact ⟨0, s', by simp [hrun', checkValue], h'⟩
  obtain ⟨_, s₂, hrun₂, h₂, -⟩ := hlist s₁ h₁ hquiet₁
  obtain ⟨s₃, hrun₃⟩ := h₂.endStatement
  have henum : Parser.peekNext (fun t => t.kind == .word "enum") s = .ok (false, s) := by
    refine hs.peekNext hname fun t ht _ => ?_
    have hne : m ≠ "enum" := by
      rintro rfl
      exact absurd hm.reserved (by decide)
    simp [ht, hne]
  have hvariable : variableStatement (Nat.repeat Grammar.deeper 2 g) .constant s =
      .ok (.declaration .constant [.initialized (.name m) (.name n)], s₃) := by
    simp only [variableStatement, bind_run, hs.tests, hrun₁, hrun₂, hrun₃, pure_run]
  have hinner : .declaration .constant [.initialized (.name m) (.name n)] = inner ∧ s₃ = s' := by
    simpa [wordStatement, reservedStatement, hs.tests, henum, lexicalStatement, hvariable]
      using hword
  obtain hbare | hbare := hbare <;> rw [← hinner.1] at hbare <;> exact hbare

end Parser

end LivePreview.Script
