import LivePreview.Proofs.CenteredItem
import LivePreview.Proofs.DemotedHeads
import LivePreview.Proofs.DemotedText
import LivePreview.Proofs.ModuleItems
/-!
# Centered examples as modules

A centered example is a demoted source with the wrapper behind it.
-/
namespace LivePreview.Example

open Script

/-! ## What a wrapper shows -/

/-- A declaration in a demoted source. -/
structure Declared where
  /-- The name that the source gives to what is declared. -/
  name : String
  front : List Char
  /-- The word that the declaration starts with. -/
  word : String
  /-- The text behind that word. -/
  behind : List Char
  /-- What an item there has to be. -/
  declares : Stmt → Prop

namespace Declared

/-- A constant in place of a default export. -/
def constant (front n rest : List Char) : Declared :=
  ⟨String.ofList n, front, "const", " __PreviewDefaultComponent = ".toList ++ (n ++ ';' :: rest),
    SetsConstant defaultAlias (String.ofList n)⟩

/-- A function that was the default export. -/
def demotedFunction (front n rest : List Char) : Declared :=
  ⟨String.ofList n, front, "function", ' ' :: (n ++ '(' :: rest),
    DeclaresFunction (String.ofList n)⟩

/-- A function that is exported under its name. -/
def exportedFunction (front w₁ w₂ n w₃ rest : List Char) : Declared :=
  ⟨String.ofList n, front, "export",
    w₁ ++ ("function".toList ++ (w₂ ++ (n ++ (w₃ ++ '(' :: rest)))),
    ExportsFunction (String.ofList n)⟩

end Declared

/-- The component that the wrapper around a source shows, and its declaration: the default export,
or a function that is exported under its name if there is none. -/
inductive Shows (code : List Char) : String → Declared → Prop where
  | constant {front n rest : List Char}
      (hname : firstMatch? defaultName? (replaceFirst defaultFunction? "function " "(" code) =
        some (front, n, rest)) : Shows code defaultAlias (.constant front n rest)
  | demotedFunction {front n rest : List Char}
      (hfunction : firstMatch? defaultFunction? code = some (front, n, rest))
      (hname : firstMatch? defaultName? (replaceFirst defaultFunction? "function " "(" code) =
        none) : Shows code (String.ofList n) (.demotedFunction front n rest)
  | exportedFunction {front w₁ w₂ n w₃ rest : List Char}
      (hexported : firstMatch? namedFunction? code = some (front, n, rest))
      (hcode : code = front ++ ("export".toList ++
        (w₁ ++ ("function".toList ++ (w₂ ++ (n ++ (w₃ ++ '(' :: rest)))))))
      (hw₁ : IsGap w₁) (hw₂ : IsGap w₂) (hw₃ : w₃.all Text.isBlank = true)
      (hfunction : firstMatch? defaultFunction? code = none)
      (hname : firstMatch? defaultName? code = none) :
      Shows code (String.ofList n) (.exportedFunction front w₁ w₂ n w₃ rest)

variable {code : String} {component : String} {d : Declared}

theorem occurs_iff {p s : String} : Text.occurs p s = false ↔ ¬ p.toList <:+: s.toList := by
  rw [← Text.occurs_eq_true, Bool.not_eq_true]

/-- A piece that is not among the characters of a text does not occur in it. -/
theorem occurs_eq_false_of_chars {p s : String} {pattern chars : List Char}
    (hp : p.toList = pattern) (hs : s.toList = chars)
    (h : (Text.cutChars? pattern chars).isSome = false) : Text.occurs p s = false := by
  rw [Text.occurs, Text.cut?, Option.isSome_map, hp, hs, h]

/-- The alias is there if a default export is demoted to a constant. -/
theorem infix_alias (front n rest : List Char) :
    defaultAlias.toList <:+: front ++ ("const".toList ++
      (" __PreviewDefaultComponent = ".toList ++ (n ++ ';' :: rest))) :=
  ⟨front ++ "const ".toList, " = ".toList ++ (n ++ ';' :: rest), by simp [defaultAlias]⟩

/-- A source is changed by demoting it and adding the wrapper. -/
theorem wrapCentered_eq (hchanged : wrapCentered code ≠ code) :
    ∃ n, exportedName? code.toList = some n ∧
      wrapCentered code = String.ofList (demote code.toList) ++
        wrapper (if Text.occurs defaultAlias (String.ofList (demote code.toList)) then defaultAlias
          else String.ofList n) := by
  unfold wrapCentered at hchanged ⊢
  split at hchanged
  · exact absurd rfl hchanged
  · rename_i hhead
    cases hname : exportedName? code.toList with
    | none => simp [hname] at hchanged
    | some n => exact ⟨n, rfl, by simp [hhead]⟩

/-- A source that exports a component and is not wrapped yet becomes another one. -/
theorem wrapCentered_ne {n : List Char} (hhead : Text.occurs wrapperHead code = false)
    (hn : exportedName? code.toList = some n) : wrapCentered code ≠ code := by
  intro hsame
  refine occurs_iff.mp hhead ?_
  rw [← hsame]
  unfold wrapCentered wrapper
  simp only [hhead, hn, Bool.false_eq_true, if_false, String.toList_append, List.append_assoc]
  exact ⟨_ ++ "\n\n".toList, _, by simp only [List.append_assoc]; rfl⟩

/-- What is left of a changed source, and the component that the wrapper behind it shows. -/
theorem exists_shows (hchanged : wrapCentered code ≠ code)
    (hfree : Text.occurs defaultAlias code = false) :
    ∃ component d, Shows code.toList component d ∧
      (wrapCentered code).toList =
        d.front ++ (d.word.toList ++ (d.behind ++ (wrapper component).toList)) := by
  obtain ⟨n, hn, heq⟩ := wrapCentered_eq hchanged
  rw [occurs_iff] at hfree
  rw [heq, String.toList_append, String.toList_ofList]
  cases hname : firstMatch? defaultName? (replaceFirst defaultFunction? "function " "(" code.toList)
    with
  | some m =>
    obtain ⟨front, name, rest⟩ := m
    have hdemote : demote code.toList = front ++ ("const".toList ++
        (" __PreviewDefaultComponent = ".toList ++ (name ++ ';' :: rest))) := by
      rw [demote, replaceFirst, hname]
      simp [defaultAlias]
    have halias : Text.occurs defaultAlias (String.ofList (demote code.toList)) = true := by
      rw [Text.occurs_eq_true, String.toList_ofList, hdemote]
      exact infix_alias front name rest
    refine ⟨defaultAlias, .constant front name rest, .constant hname, ?_⟩
    rw [halias, hdemote]
    simp [Declared.constant]
  | none =>
    have hdemote : demote code.toList =
        replaceFirst defaultFunction? "function " "(" code.toList := by
      rw [demote, replaceFirst, hname]
    have halias : Text.occurs defaultAlias (String.ofList (demote code.toList)) = false := by
      rw [occurs_iff, String.toList_ofList, hdemote]
      exact not_infix_alias hfree
    rw [halias]
    cases hfunction : firstMatch? defaultFunction? code.toList with
    | some m =>
      obtain ⟨front, name, rest⟩ := m
      obtain rfl : name = n := by simpa [exportedName?, hfunction] using hn
      refine ⟨_, .demotedFunction front name rest, .demotedFunction hfunction hname, ?_⟩
      rw [hdemote, replaceFirst_defaultFunction hfunction]
      simp [Declared.demotedFunction]
    | none =>
      have hsame : replaceFirst defaultFunction? "function " "(" code.toList = code.toList := by
        rw [replaceFirst, hfunction]
      rw [hsame] at hname
      cases hexported : firstMatch? namedFunction? code.toList with
      | some m =>
        obtain ⟨front, name, rest⟩ := m
        obtain rfl : name = n := by simpa [exportedName?, hfunction, hexported] using hn
        obtain ⟨u, hcode, hu⟩ := eq_append_of_firstMatch? hexported
        obtain ⟨w₁, w₂, w₃, hw₁, hw₂, hw₃, rfl⟩ := eq_append_of_namedFunction? hu
        refine ⟨_, .exportedFunction front w₁ w₂ name w₃ rest,
          .exportedFunction hexported hcode hw₁ hw₂ hw₃ hfunction hname, ?_⟩
        rw [hdemote, hsame, hcode]
        simp [Declared.exportedFunction]
      | none => simp [exportedName?, hfunction, hexported, hname] at hn

/-! ## The declaration as an item -/

open Script.Parser

section Items

variable {n w₁ w₂ w₃ rest : List Char}

theorem isPlainName_defaultAlias : IsPlainName defaultAlias :=
  ⟨⟨_, _, rfl, by decide, by decide⟩, by decide, by decide, by decide, by decide⟩

set_option maxRecDepth 2000 in
theorem constant_isItem (hn : IsPlainName (String.ofList n)) :
    IsItem "const" (" __PreviewDefaultComponent = ".toList ++ (n ++ ';' :: rest))
      (SetsConstant defaultAlias (String.ofList n)) := by
  intro depth b s st s' hs hrun
  have hname : Follows
      ⟨.word "const", b, " __PreviewDefaultComponent = ".toList ++ (n ++ ';' :: rest)⟩
      ⟨.word defaultAlias, false, " = ".toList ++ (n ++ ';' :: rest)⟩ := fun _ => ⟨_, _, _, rfl⟩
  have hequals : Follows ⟨.word defaultAlias, false, " = ".toList ++ (n ++ ';' :: rest)⟩
      ⟨.punct "=", false, ' ' :: (n ++ ';' :: rest)⟩ := fun _ => ⟨_, _, _, rfl⟩
  have hvalue : Follows ⟨.punct "=", false, ' ' :: (n ++ ';' :: rest)⟩
      ⟨.word (String.ofList n), false, ';' :: rest⟩ :=
    follows_name (w := [' ']) rfl (by simpa using hn.name)
      (Lexer.halts_cons (by decide) (by decide))
  have hend : Follows ⟨.word (String.ofList n), false, ';' :: rest⟩ ⟨.punct ";", false, rest⟩ :=
    fun _ => ⟨_, _, _, rfl⟩
  exact hs.setsConstant (g := Grammar.ofDepth (depth + 30)) isPlainName_defaultAlias hn hname
    hequals hvalue hend hrun

/-- A name in front of a parenthesis. -/
theorem follows_parenthesis {k : TokenKind} {b : Bool} {w : List Char}
    (hw : w.all Text.isBlank = true) :
    Follows ⟨k, b, w ++ '(' :: rest⟩ ⟨.punct "(", w.any Lexer.isLineBreak, rest⟩ :=
  follows_of_blanks hw (Lexer.solid_cons (by decide) (by decide) (by decide)) rfl

theorem demotedFunction_isItem (hn : IsPlainName (String.ofList n)) :
    IsItem "function" (' ' :: (n ++ '(' :: rest)) (DeclaresFunction (String.ofList n)) := by
  intro depth b s st s' hs hrun
  have hname : Follows ⟨.word "function", b, ' ' :: (n ++ '(' :: rest)⟩
      ⟨.word (String.ofList n), false, '(' :: rest⟩ :=
    follows_name (w := [' ']) rfl (by simpa using hn.name)
      (Lexer.halts_cons (by decide) (by decide))
  exact hs.declaresFunction hn hname (follows_parenthesis (w := []) rfl) hrun

theorem exportedFunction_isItem (hn : IsPlainName (String.ofList n)) (hw₁ : IsGap w₁)
    (hw₂ : IsGap w₂) (hw₃ : w₃.all Text.isBlank = true) :
    IsItem "export" (w₁ ++ ("function".toList ++ (w₂ ++ (n ++ (w₃ ++ '(' :: rest)))))
      (ExportsFunction (String.ofList n)) := by
  intro depth b s st s' hs hrun
  have hhalts : Lexer.Halts (w₂ ++ (n ++ (w₃ ++ '(' :: rest))) := by
    obtain ⟨c, w, rfl⟩ := List.exists_cons_of_ne_nil hw₂.1
    exact Lexer.halts_blank (by simpa using (List.all_eq_true.mp hw₂.2) c (by simp))
  have hfunction : Follows
      ⟨.word "export", b, w₁ ++ ("function".toList ++ (w₂ ++ (n ++ (w₃ ++ '(' :: rest))))⟩
      ⟨.word "function", w₁.any Lexer.isLineBreak, w₂ ++ (n ++ (w₃ ++ '(' :: rest))⟩ :=
    follows_name hw₁.2 ⟨_, _, rfl, by decide, by decide⟩ hhalts
  have hname : Follows
      ⟨.word "function", w₁.any Lexer.isLineBreak, w₂ ++ (n ++ (w₃ ++ '(' :: rest))⟩
      ⟨.word (String.ofList n), w₂.any Lexer.isLineBreak, w₃ ++ '(' :: rest⟩ :=
    follows_name hw₂.2 (by simpa using hn.name)
      (Lexer.halts_blanks hw₃ (Lexer.halts_cons (by decide) (by decide)))
  exact hs.exportsFunction hn hfunction hname (follows_parenthesis hw₃) hrun

end Items

/-! ## The wrapper as the last item -/

/-- An item that is the wrapper around a component. -/
def Centers (component : String) (item : Stmt) : Prop :=
  ∃ offset f, item.bare = .exportDefault (.functionDecl f) ∧
    (f = centeringFunction component offset ∨ f = .effectless (centeringFunction component offset))

/-- How often items export something by default. -/
def defaultExports (items : Module) : Nat :=
  (items.flatMap fun item => exportedNames item.bare).count "default"

theorem wrapper_toList (component : String) :
    (wrapper component).toList = "\n\nexport".toList ++ behindExport component := by
  have hfront : "\n\n" ++ wrapperHead ++ " \x7b\n  return (\n" ++
      "    <div className=\"flex min-h-svh w-full items-center justify-center p-6\">\n      <" =
        "\n\nexport" ++ " default function CenteredPreview() \x7b\n  return (\n    <" ++
          "div className=\"flex min-h-svh w-full items-center justify-center p-6\">" ++
          "\n      <" := rfl
  have hback : " />\n    </div>\n  );\n\x7d" = " />" ++ "\n    </div>" ++ "\n  );\n\x7d" := rfl
  rw [wrapper, hfront, hback]
  unfold behindExport behindBracket behindOpening behindComponent behindElement
  simp only [String.toList_append, List.append_assoc]

theorem eight_le_behindExport (component : String) : 8 ≤ (behindExport component).length := by
  have hword : 8 ≤ " default function CenteredPreview() \x7b\n  return (\n    <".toList.length := by
    rw [String.length_toList]
    decide
  show 8 ≤ (_ ++ behindBracket component).length
  rw [List.length_append]
  exact Nat.le_add_right_of_le hword

theorem wrapper_isLastItem (hn : IsName component.toList) :
    IsLastItem "export" (behindExport component) (Centers component) := by
  intro depth b s hs
  obtain ⟨offset, s', hrun, hs', hquiet⟩ :=
    wrapper_reads (g := Grammar.ofDepth (depth + 25)) hn hs
  have hword : wordStatement (Grammar.ofDepth (depth + 32)) false "export" s =
      .ok (.exportDefault (.functionDecl (centeringFunction component offset)), s') := by
    have hexport : exportDeclaration (Grammar.ofDepth (depth + 32)) [] 0 s =
        .ok (.exportDefault (.functionDecl (centeringFunction component offset)), s') := hrun
    simp [wordStatement, reservedStatement, hexport]
  have hkind : s.token.kind = .word "export" := hs.kind
  have hstatement : statementBody (Grammar.ofDepth (depth + 32)) false s =
      .ok ((let item : Stmt := if s.token.effectless then
          .exportDefault (.functionDecl (.effectless (centeringFunction component offset)))
          else .exportDefault (.functionDecl (centeringFunction component offset))
        if s.token.comments.isEmpty then item else .commented s.token.comments item), s') := by
    simp [statementBody, hs.tests, hkind, hword, markStatement, markDeclared, markEffectless,
      centeringFunction]
  refine ⟨_, s', hstatement, ⟨offset, ?_⟩, hs', hquiet⟩
  cases s.token.effectless <;> cases s.token.comments.isEmpty
  · exact ⟨_, rfl, .inl rfl⟩
  · exact ⟨_, rfl, .inl rfl⟩
  · exact ⟨_, rfl, .inr rfl⟩
  · exact ⟨_, rfl, .inr rfl⟩

theorem defaultExports_append_wrapper {items : Module} {item : Stmt} (h : Centers component item) :
    defaultExports (items ++ [item]) = defaultExports items + 1 := by
  obtain ⟨offset, f, hbare, -⟩ := h
  simp [defaultExports, hbare, exportedNames]

/-! ## The result -/

/-- What the wrapper shows is declared by the item that starts at its declaration, in front of any
text. -/
theorem Shows.isItem {s : List Char} (h : Shows s component d) (hn : IsPlainName d.name)
    (t : List Char) : IsItem d.word (d.behind ++ t) d.declares := by
  cases h with
  | @constant front n rest hname =>
    have hassoc : (Declared.constant front n rest).behind ++ t =
        " __PreviewDefaultComponent = ".toList ++ (n ++ ';' :: (rest ++ t)) := by
      simp only [Declared.constant, List.append_assoc, List.cons_append]
    rw [hassoc]
    exact constant_isItem hn
  | @demotedFunction front n rest hfunction hname =>
    have hassoc : (Declared.demotedFunction front n rest).behind ++ t =
        ' ' :: (n ++ '(' :: (rest ++ t)) := by
      simp only [Declared.demotedFunction, List.append_assoc, List.cons_append]
    rw [hassoc]
    exact demotedFunction_isItem hn
  | @exportedFunction front w₁ w₂ n w₃ rest hexported hcode hw₁ hw₂ hw₃ hfunction hname =>
    have hassoc : (Declared.exportedFunction front w₁ w₂ n w₃ rest).behind ++ t =
        w₁ ++ ("function".toList ++ (w₂ ++ (n ++ (w₃ ++ '(' :: (rest ++ t))))) := by
      simp only [Declared.exportedFunction, List.append_assoc, List.cons_append]
    rw [hassoc]
    exact exportedFunction_isItem hn hw₁ hw₂ hw₃

/-- Centering a source demotes its default export and adds the wrapper. If the demoted source is
read item by item up to the wrapper, the result is a module: the wrapper is one more item and one
more default export. If one of the items in front starts where the component of the wrapper is
declared, it declares that component. -/
theorem wrapCentered_module (hchanged : wrapCentered code ≠ code)
    (hfree : Text.occurs defaultAlias code = false) :
    ∃ component d, Shows code.toList component d ∧
      (wrapCentered code).toList =
        d.front ++ (d.word.toList ++ (d.behind ++ (wrapper component).toList)) ∧
      ∀ items, IsName component.toList →
        Source.itemsBefore? (wrapCentered code).toList "export" (behindExport component) =
          some items →
        (∃ m item, Source.parse true (wrapCentered code).toList = .ok m ∧
          m.items = items ++ [item] ∧ Centers component item ∧
          defaultExports m.items = defaultExports items + 1) ∧
        ∀ before, IsPlainName d.name →
          Source.itemsBefore? (wrapCentered code).toList d.word
            (d.behind ++ (wrapper component).toList) = some before →
          ∃ item after, items = before ++ item :: after ∧ d.declares item := by
  obtain ⟨component, d, hshows, htext⟩ := exists_shows hchanged hfree
  refine ⟨component, d, hshows, htext, fun items hname hitems =>
    ⟨?_, fun before hplain hbefore => ?_⟩⟩
  · obtain ⟨m, item, hparse, hm, hitem⟩ := Source.parse_of_itemsBefore? hitems
      (eight_le_behindExport component) (wrapper_isLastItem hname)
    exact ⟨m, item, hparse, hm, hitem, by rw [hm, defaultExports_append_wrapper hitem]⟩
  · have hlonger :
        (behindExport component).length < (d.behind ++ (wrapper component).toList).length := by
      rw [wrapper_toList, List.length_append, List.length_append]
      have hword : 0 < "\n\nexport".toList.length := by decide
      omega
    have hroom := eight_le_behindExport component
    refine Source.items_of_itemsBefore? hbefore (hshows.isItem hplain _) (by omega) hitems
      (wrapper_isLastItem hname) hroom fun heq => ?_
    rw [Prod.mk.injEq] at heq
    rw [heq.2] at hlonger
    exact absurd hlonger (lt_irrefl _)

/-- An example whose default export is a function with a name. -/
def demoSource : String := "export default function Demo() \x7b return null \x7d"

set_option maxRecDepth 4000 in
theorem wrapCentered_demoSource :
    wrapCentered demoSource ≠ demoSource ∧ Text.occurs defaultAlias demoSource = false ∧
      ∃ m shown item, Source.parse true (wrapCentered demoSource).toList = .ok m ∧
        m.items = [shown, item] ∧ DeclaresFunction "Demo" shown ∧ Centers "Demo" item ∧
        defaultExports m.items = 1 := by
  obtain ⟨chars, hsource, hnone, hsome⟩ : ∃ chars, demoSource.toList = chars ∧
      firstMatch? defaultName? (replaceFirst defaultFunction? "function " "(" chars) = none ∧
      firstMatch? defaultFunction? chars =
        some ([], "Demo".toList, ") \x7b return null \x7d".toList) :=
    ⟨_, String.toList_ofList, by decide +kernel, by decide +kernel⟩
  subst hsource
  have hexported : exportedName? demoSource.toList = some "Demo".toList := by
    simp only [exportedName?, List.findSome?_cons, hsome, Option.map_some]
  have hhead : Text.occurs wrapperHead demoSource = false :=
    occurs_eq_false_of_chars String.toList_ofList String.toList_ofList (by decide +kernel)
  have hfree : Text.occurs defaultAlias demoSource = false :=
    occurs_eq_false_of_chars String.toList_ofList String.toList_ofList (by decide +kernel)
  have hchanged : wrapCentered demoSource ≠ demoSource := wrapCentered_ne hhead hexported
  obtain ⟨middle, tail, hmiddle, htail, hread, hreadBefore⟩ : ∃ middle tail,
      " Demo() \x7b return null \x7d\n\nexport".toList = middle ∧ behindExport "Demo" = tail ∧
      (Source.itemsBefore? ("function".toList ++ (middle ++ tail)) "export" tail).map
          (fun items => (items.length, defaultExports items)) = some (1, 0) ∧
      (Source.itemsBefore? ("function".toList ++ (middle ++ tail)) "function"
        (middle ++ tail)).map List.length = some 0 := by
    unfold behindExport behindBracket behindOpening behindComponent behindElement
    repeat rw [String.toList_ofList]
    exact ⟨_, _, rfl, rfl, by decide +kernel, by decide +kernel⟩
  subst hmiddle htail
  refine ⟨hchanged, hfree, ?_⟩
  obtain ⟨component, d, hshows, htext, hmodule⟩ := wrapCentered_module hchanged hfree
  cases hshows with
  | constant hname => rw [hnone] at hname; cases hname
  | exportedFunction _ _ _ _ _ hfunction _ => rw [hsome] at hfunction; cases hfunction
  | @demotedFunction front n rest hfunction _ =>
    rw [hsome] at hfunction
    obtain ⟨rfl, rfl, rfl⟩ : [] = front ∧ "Demo".toList = n ∧
        ") \x7b return null \x7d".toList = rest := by simpa using hfunction
    have hname : String.ofList "Demo".toList = "Demo" := String.ofList_toList
    rw [hname] at htext hmodule
    have hbehind : (Declared.demotedFunction [] "Demo".toList
        ") \x7b return null \x7d".toList).behind ++ (wrapper "Demo").toList =
          " Demo() \x7b return null \x7d\n\nexport".toList ++ behindExport "Demo" := by
      rw [wrapper_toList, ← List.append_assoc]
      refine congrArg (· ++ behindExport "Demo") ?_
      decide +kernel
    rw [hbehind] at htext hmodule
    simp only [Declared.demotedFunction, hname, List.nil_append] at htext hmodule
    obtain ⟨items, hitems, hcount⟩ := Option.map_eq_some_iff.mp hread
    obtain ⟨before, hbefore, hlength⟩ := Option.map_eq_some_iff.mp hreadBefore
    obtain ⟨hcount, hexports⟩ := Prod.mk.inj hcount
    have hplain : IsPlainName "Demo" :=
      ⟨⟨_, _, rfl, by decide, by decide⟩, by decide, by decide, by decide, by decide⟩
    obtain ⟨⟨m, item, hparse, hm, hitem, hdefaults⟩, hshown⟩ :=
      hmodule items hplain.name (by rw [htext]; exact hitems)
    obtain ⟨shown, after, rfl, hdeclares⟩ := hshown before hplain (by
      rw [htext]
      exact hbefore)
    obtain rfl := List.length_eq_zero_iff.mp hlength
    obtain rfl : after = [] := by simpa using hcount
    exact ⟨m, shown, item, hparse, hm, hdeclares, hitem, by rw [hdefaults, hexports]⟩

/-- An example whose default export is a class. Its value is taken to be the name `class`, and the
class is cut off behind it. -/
def classSource : String := "export default class Demo \x7b\x7d"

set_option maxRecDepth 4000 in
theorem centered_class_not_module :
    ∃ m, Source.parse true classSource.toList = .ok m ∧ defaultExports m.items = 1 ∧
      Text.occurs wrapperHead classSource = false ∧ wrapCentered classSource ≠ classSource ∧
      ∀ m', Source.parse true (wrapCentered classSource).toList ≠ .ok m' := by
  have hsource : (Source.parse true classSource.toList).toOption.map
      (fun m => defaultExports m.items) = some 1 := by
    rw [classSource, String.toList_ofList]
    decide +kernel
  have hhead : Text.occurs wrapperHead classSource = false :=
    occurs_eq_false_of_chars String.toList_ofList String.toList_ofList (by decide +kernel)
  have hexported : exportedName? classSource.toList = some "class".toList := by
    rw [classSource, String.toList_ofList]
    decide +kernel
  have hwrapped : wrapCentered classSource =
      "const __PreviewDefaultComponent = class;Demo \x7b\x7d" ++ wrapper defaultAlias := by
    decide +kernel
  have hresult : (Source.parse true (wrapCentered classSource).toList).toBool = false := by
    rw [hwrapped, String.toList_append, wrapper_toList]
    unfold behindExport behindBracket behindOpening behindComponent behindElement defaultAlias
    repeat rw [String.toList_ofList]
    decide +kernel
  obtain ⟨m, hm, hcount⟩ := Option.map_eq_some_iff.mp hsource
  refine ⟨m, ?_, hcount, hhead, wrapCentered_ne hhead hexported, fun m' hm' => ?_⟩
  · cases hparse : Source.parse true classSource.toList with
    | ok _ => rw [hparse] at hm; exact congrArg Except.ok (Option.some.inj hm)
    | error _ => rw [hparse] at hm; cases hm
  · rw [hm'] at hresult
    cases hresult

end LivePreview.Example
