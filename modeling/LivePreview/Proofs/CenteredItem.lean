import LivePreview.Example.Source
import LivePreview.Proofs.LexedNames
import LivePreview.Proofs.SimpleForms
/-!
# The wrapper as an item of a module

What the parser reads at the wrapper around a component (`wrapper_reads`): a function that is the
default export and that returns an element with the component in it. The texts between its tokens
are known, up to the component's name.
-/
namespace LivePreview.Script.Parser

open Lexer

variable {g : Grammar} {c : Context} {n : String} {s : ParserState}

/-! ## What the wrapper is -/

/-- The classes of the element around the component. -/
def centeringClasses : String := "flex min-h-svh w-full items-center justify-center p-6"

/-- The element around a component, with its attribute at an offset. -/
def centeringElement (n : String) (offset : Nat) : Markup :=
  .element (.string "div") [.attribute offset "className" (.text centeringClasses)]
    [.text "\n      ", .element (tagOf n) [] [], .text "\n    "]

/-- The function that returns that element. -/
def centeringFunction (n : String) (offset : Nat) : Expr :=
  .function (some "CenteredPreview") false false []
    [.returnStmt (some (.paren (.markup (centeringElement n offset))))]

/-! ## Reading it -/

section Texts

variable (n)

/-- The text behind the element around the component. -/
def behindElement : List Char := "\n  );\n\x7d".toList

/-- The text behind the component. -/
def behindComponent : List Char := "\n    </div>".toList ++ behindElement

/-- The text behind the opening tag of the element. -/
def behindOpening : List Char :=
  "\n      <".toList ++ (n.toList ++ (" />".toList ++ behindComponent))

/-- The text behind the bracket that opens the element. -/
def behindBracket : List Char :=
  "div className=\"flex min-h-svh w-full items-center justify-center p-6\">".toList ++
    behindOpening n

/-- The text behind the first word of the wrapper. -/
def behindExport : List Char :=
  " default function CenteredPreview() \x7b\n  return (\n    <".toList ++ behindBracket n

end Texts

set_option maxRecDepth 4000 in
/-- The attribute of the element, in front of any text. -/
theorem centering_attribute_reads (t : List Char) :
    Reads c (attributeItem g)
      ⟨.word "className", false,
        "=\"flex min-h-svh w-full items-center justify-center p-6\">".toList ++ t⟩
      (fun offset => some (.attribute offset "className" (.text centeringClasses)))
      ⟨.punct ">", false, t⟩ := by
  have hsign : Follows
      ⟨.word "className", false,
        "=\"flex min-h-svh w-full items-center justify-center p-6\">".toList ++ t⟩
      ⟨.punct "=", false,
        "\"flex min-h-svh w-full items-center justify-center p-6\">".toList ++ t⟩ :=
    .of_chars fun _ => ⟨_, _, _, by rfl⟩
  have hvalue : FollowsBy attributeLexeme
      ⟨.punct "=", false,
        "\"flex min-h-svh w-full items-center justify-center p-6\">".toList ++ t⟩
      ⟨.string centeringClasses centeringClasses, false, ">".toList ++ t⟩ :=
    .of_chars fun _ => ⟨_, _, _, by rfl⟩
  have hend : Follows ⟨.string centeringClasses centeringClasses, false, ">".toList ++ t⟩
      ⟨.punct ">", false, t⟩ := fun _ => ⟨_, _, _, rfl⟩
  exact attributeItem_reads rfl hsign hvalue hend

/-- The name of the element. -/
theorem tag_follows (n : String) : Follows ⟨.punct "<", true, behindBracket n⟩
    ⟨.word "div", false,
      " className=\"flex min-h-svh w-full items-center justify-center p-6\">".toList ++
        behindOpening n⟩ :=
  .of_chars fun _ => ⟨_, _, _, by rfl⟩

/-- The name of its attribute. -/
theorem attribute_follows (n : String) : Follows
    ⟨.word "div", false,
      " className=\"flex min-h-svh w-full items-center justify-center p-6\">".toList ++
        behindOpening n⟩
    ⟨.word "className", false,
      "=\"flex min-h-svh w-full items-center justify-center p-6\">".toList ++ behindOpening n⟩ :=
  .of_chars fun _ => ⟨_, _, _, by rfl⟩

section Component

variable (hn : IsName n.toList)
include hn

/-- The component comes behind its bracket. -/
theorem component_follows : Follows
    ⟨.punct "<", false, n.toList ++ (" />".toList ++ behindComponent)⟩
    ⟨.word n, false, " />".toList ++ behindComponent⟩ := by
  have hhalts : Halts (" />".toList ++ behindComponent) := halts_cons (by decide) (by decide)
  simpa using follows_name (k := .punct "<") (b := false) (w := []) rfl hn hhalts

set_option maxRecDepth 2000 in
theorem component_reads :
    Reads c (markupBody g true)
      ⟨.punct "<", false, n.toList ++ (" />".toList ++ behindComponent)⟩
      (fun _ => .element (tagOf n) [] [])
      ⟨.markupText "\n    ", false, "</div>".toList ++ behindElement⟩ := by
  have hslash : Follows ⟨.word n, false, " />".toList ++ behindComponent⟩
      ⟨.punct "/", false, ">".toList ++ behindComponent⟩ := fun _ => ⟨_, _, _, rfl⟩
  have hend : Follows ⟨.punct "/", false, ">".toList ++ behindComponent⟩
      ⟨.punct ">", false, behindComponent⟩ := fun _ => ⟨_, _, _, rfl⟩
  have htext : FollowsInside ⟨.punct ">", false, behindComponent⟩
      ⟨.markupText "\n    ", false, "</div>".toList ++ behindElement⟩ := ⟨_, rfl, rfl⟩
  exact emptyElement_reads (component_follows hn) rfl hslash hend htext

set_option maxRecDepth 2000 in
/-- The children of the element: the component between two texts. -/
theorem centering_children_read (hs : At c ⟨.markupText "\n      ", false,
      "<".toList ++ (n.toList ++ (" />".toList ++ behindComponent))⟩ s) (hquiet : Quiet s) :
    ∃ s', many (child (Grammar.deeper g)) s =
        .ok ([.text "\n      ", .element (tagOf n) [] [], .text "\n    "], s') ∧
      At c ⟨.punct "<", false, "/div>".toList ++ behindElement⟩ s' := by
  have hopening : FollowsInside
      ⟨.markupText "\n      ", false,
        "<".toList ++ (n.toList ++ (" />".toList ++ behindComponent))⟩
      ⟨.punct "<", false, n.toList ++ (" />".toList ++ behindComponent)⟩ := ⟨_, rfl, rfl⟩
  have hclosing : FollowsInside ⟨.markupText "\n    ", false, "</div>".toList ++ behindElement⟩
      ⟨.punct "<", false, "/div>".toList ++ behindElement⟩ := ⟨_, rfl, rfl⟩
  have hslash : Follows ⟨.punct "<", false, "/div>".toList ++ behindElement⟩
      ⟨.punct "/", false, "div>".toList ++ behindElement⟩ := fun _ => ⟨_, _, _, rfl⟩
  obtain ⟨_, s₁, hrun₁, h₁, hquiet₁⟩ :=
    child_text_reads (g := Grammar.deeper g) hopening s hs hquiet
  obtain ⟨_, s₂, hrun₂, h₂, hquiet₂⟩ := child_element_reads (g := Grammar.deeper g)
    (component_follows hn) (by simp) (component_reads hn) s₁ h₁ hquiet₁
  obtain ⟨_, s₃, hrun₃, h₃, -⟩ :=
    child_text_reads (g := Grammar.deeper g) hclosing s₂ h₂ hquiet₂
  have hlast : child (Grammar.deeper g) s₃ = .ok (none, s₃) := h₃.noChild hslash rfl
  have hall := Repeats.more hrun₁ (.more hrun₂ (.more hrun₃ (.done hlast)))
  have hroom := hs.room
  exact ⟨s₃, hall.many (by simp; omega), h₃⟩

set_option maxRecDepth 2000 in
/-- The element around the component. -/
theorem centering_element_reads :
    Reads c (markupBody (Grammar.deeper g) false) ⟨.punct "<", true, behindBracket n⟩
      (centeringElement n) ⟨.punct ")", true, ";\n\x7d".toList⟩ := by
  intro s hs _
  have htext : FollowsInside ⟨.punct ">", false, behindOpening n⟩
      ⟨.markupText "\n      ", false,
        "<".toList ++ (n.toList ++ (" />".toList ++ behindComponent))⟩ := ⟨_, rfl, rfl⟩
  have hslash : Follows ⟨.punct "<", false, "/div>".toList ++ behindElement⟩
      ⟨.punct "/", false, "div>".toList ++ behindElement⟩ := fun _ => ⟨_, _, _, rfl⟩
  have hagain : Follows ⟨.punct "/", false, "div>".toList ++ behindElement⟩
      ⟨.word "div", false, ">".toList ++ behindElement⟩ := fun _ => ⟨_, _, _, rfl⟩
  have hend : Follows ⟨.word "div", false, ">".toList ++ behindElement⟩
      ⟨.punct ">", false, behindElement⟩ := fun _ => ⟨_, _, _, rfl⟩
  have hq : Follows ⟨.punct ">", false, behindElement⟩
      ⟨.punct ")", true, ";\n\x7d".toList⟩ := fun _ => ⟨_, _, _, rfl⟩
  obtain ⟨s₁, hrun₁, h₁, -⟩ := hs.expect (tag_follows n)
  obtain ⟨s₂, hrun₂, h₂, hquiet₂⟩ := h₁.tagName rfl (attribute_follows n) (by simp)
  obtain ⟨offset, s₃, hrun₃, h₃, -⟩ :=
    centering_attribute_reads (g := Grammar.deeper g) (behindOpening n) s₂ h₂ hquiet₂
  have hattributes : many (attributeItem (Grammar.deeper g)) s₂ =
      .ok ([.attribute offset "className" (.text centeringClasses)], s₃) :=
    (Repeats.more hrun₃ (.done (h₃.noAttribute (by simp)))).many (by have := h₂.room; simp; omega)
  obtain ⟨s₄, hrun₄, h₄, hquiet₄⟩ := h₃.expectBeforeText htext
  obtain ⟨s₅, hrun₅, h₅⟩ := centering_children_read (g := g) hn h₄ hquiet₄
  obtain ⟨s₆, hrun₆, h₆, -⟩ := h₅.expect hslash
  obtain ⟨s₇, hrun₇, h₇, -⟩ := h₆.expect hagain
  obtain ⟨s₈, hrun₈, h₈, -⟩ := h₇.tagName rfl hend (by simp)
  obtain ⟨s₉, hrun₉, h₉⟩ := h₈.expect hq
  have htag : tagOf "div" = .string "div" := by simp [tagOf, Text.isAsciiLower]
  refine ⟨offset, s₉, ?_, h₉⟩
  simp [markupBody, hrun₁, h₁.tests, hrun₂, h₂.tests, h₂.noTypeArguments, hattributes, h₃.misses,
    hrun₄, hrun₅, hrun₆, hrun₇, h₇.tests, hrun₈, expectClosing, hrun₉, centeringElement, htag]

set_option maxRecDepth 2000 in
/-- What the wrapper returns. -/
theorem returned_reads :
    Reads c (assignmentBody (Nat.repeat Grammar.deeper 5 g) false)
      ⟨.punct "(", false, "\n    <".toList ++ behindBracket n⟩
      (fun offset => .paren (.markup (centeringElement n offset)))
      ⟨.punct ";", false, "\n\x7d".toList⟩ := by
  have hopen : Follows ⟨.punct "(", false, "\n    <".toList ++ behindBracket n⟩
      ⟨.punct "<", true, behindBracket n⟩ := fun _ => ⟨_, _, _, rfl⟩
  have hclose : Follows ⟨.punct ")", true, ";\n\x7d".toList⟩ ⟨.punct ";", false, "\n\x7d".toList⟩ :=
    fun _ => ⟨_, _, _, rfl⟩
  have helement {c : Context} : Reads c (assignmentBody (Nat.repeat Grammar.deeper 3 g) false)
      ⟨.punct "<", true, behindBracket n⟩ (fun offset => .markup (centeringElement n offset))
      ⟨.punct ")", true, ";\n\x7d".toList⟩ :=
    assignment_reads rfl rfl
      (fun s hs => hs.guessAngle (tag_follows n) (by decide) (attribute_follows n) (by decide))
      (.inl rfl)
      (unary_markup_reads (centering_element_reads hn))
  exact assignment_reads rfl rfl (fun s hs => hs.guessParenthesis hopen) (.inr rfl)
    (unary_parenthesis_reads (.inr rfl)
      (parenthesized_reads hopen rfl (by simp) (by simp) helement hclose))

set_option maxRecDepth 2000 in
/-- The wrapper at its first word, in surroundings that are those of a module. -/
theorem wrapper_reads {b : Bool} (hs : At c ⟨.word "export", b, behindExport n⟩ s) :
    ∃ offset s', exportDeclaration (Nat.repeat Grammar.deeper 7 g) [] 0 s =
        .ok (.exportDefault (.functionDecl (centeringFunction n offset)), s') ∧
      At c ⟨.eof, false, []⟩ s' ∧ Quiet s' := by
  have hdefault : Follows ⟨.word "export", b, behindExport n⟩
      ⟨.word "default", false,
        " function CenteredPreview() \x7b\n  return (\n    <".toList ++ behindBracket n⟩ :=
    .of_chars fun _ => ⟨_, _, _, by rfl⟩
  have hfunction : Follows
      ⟨.word "default", false,
        " function CenteredPreview() \x7b\n  return (\n    <".toList ++ behindBracket n⟩
      ⟨.word "function", false,
        " CenteredPreview() \x7b\n  return (\n    <".toList ++ behindBracket n⟩ :=
    .of_chars fun _ => ⟨_, _, _, by rfl⟩
  have hname : Follows
      ⟨.word "function", false,
        " CenteredPreview() \x7b\n  return (\n    <".toList ++ behindBracket n⟩
      ⟨.word "CenteredPreview", false, "() \x7b\n  return (\n    <".toList ++ behindBracket n⟩ :=
    .of_chars fun _ => ⟨_, _, _, by rfl⟩
  have hparams : Follows
      ⟨.word "CenteredPreview", false, "() \x7b\n  return (\n    <".toList ++ behindBracket n⟩
      ⟨.punct "(", false, ") \x7b\n  return (\n    <".toList ++ behindBracket n⟩ :=
    .of_chars fun _ => ⟨_, _, _, by rfl⟩
  have hclose : Follows ⟨.punct "(", false, ") \x7b\n  return (\n    <".toList ++ behindBracket n⟩
      ⟨.punct ")", false, " \x7b\n  return (\n    <".toList ++ behindBracket n⟩ :=
    .of_chars fun _ => ⟨_, _, _, by rfl⟩
  have hopen : Follows ⟨.punct ")", false, " \x7b\n  return (\n    <".toList ++ behindBracket n⟩
      ⟨.punct "\x7b", false, "\n  return (\n    <".toList ++ behindBracket n⟩ :=
    .of_chars fun _ => ⟨_, _, _, by rfl⟩
  have hreturn : Follows ⟨.punct "\x7b", false, "\n  return (\n    <".toList ++ behindBracket n⟩
      ⟨.word "return", true, " (\n    <".toList ++ behindBracket n⟩ :=
    .of_chars fun _ => ⟨_, _, _, by rfl⟩
  have hvalue : Follows ⟨.word "return", true, " (\n    <".toList ++ behindBracket n⟩
      ⟨.punct "(", false, "\n    <".toList ++ behindBracket n⟩ :=
    .of_chars fun _ => ⟨_, _, _, by rfl⟩
  have hstop : Follows ⟨.punct ";", false, "\n\x7d".toList⟩ ⟨.punct "\x7d", true, []⟩ :=
    fun _ => ⟨_, _, _, rfl⟩
  have hend : Follows ⟨.punct "\x7d", true, []⟩ ⟨.eof, false, []⟩ := fun _ => ⟨_, _, _, rfl⟩
  have hbody {c : Context} : Reads c (functionBody (Nat.repeat Grammar.deeper 7 g))
      ⟨.punct "\x7b", false, "\n  return (\n    <".toList ++ behindBracket n⟩
      (fun offset => [.returnStmt (some (.paren (.markup (centeringElement n offset))))])
      ⟨.eof, false, []⟩ :=
    functionBody_reads hreturn (return_reads rfl hvalue (returned_reads hn) hstop) hend
  exact hs.exportDefault hdefault hfunction
    (function_reads (by simp) (by decide) (by decide) (by decide) hname hparams hclose hopen hbody)

end Component

end LivePreview.Script.Parser
