import LivePreview.Proofs.ClassFronts
/-!
# Arbitrary values that are colors or lengths

The classes of text, borders and rings take a color or a length behind the same front. Each family
has its own way to tell them apart: sizes before colors, sides before widths and colors, opacities
behind a slash. An arbitrary value passes all of these unharmed, for it starts with a bracket, which
no name and no side does (`splitSide_of_opens`), and it ends with one, which no opacity does
(`splitOpacity_of_arbitrary?`). So it is read alike in all three (`arbitrary_read_alike`).
-/
namespace LivePreview.Style

variable {s v value : String}

/-! ## The ends of an arbitrary value -/

/-- Whether a text starts with a bracket that opens a value. -/
def Opens (s : String) : Prop := ∃ c r, s.toList = c :: r ∧ opensValue c = true

theorem opens_of_arbitrary? (h : Value.arbitrary? s = some v) : Opens s := by
  obtain ⟨opening, closing, inner, hbrackets, rfl⟩ := exists_brackets_of_arbitrary? h
  rcases hbrackets with ⟨rfl, -⟩ | ⟨rfl, -⟩
  · exact ⟨'(', _, by simp; rfl, by decide⟩
  · exact ⟨'[', _, by simp; rfl, by decide⟩

theorem Opens.not_unopened (h : Opens s) : ¬ Unopened s := by
  obtain ⟨c, r, hs, hc⟩ := h
  intro hun
  have hfalse := hun c (hs ▸ List.mem_cons_self)
  rw [hc] at hfalse
  cases hfalse

theorem Opens.ne_empty (h : Opens s) : s ≠ "" := by
  rintro rfl
  exact h.not_unopened (by decide)

/-- What stands in front of the first dash of such a text starts with the bracket as well. -/
theorem Opens.of_cut? {front rest : String} (h : Opens s)
    (hcut : Text.cut? "-" s = some (front, rest)) : Opens front := by
  obtain ⟨c, r, hs, hc⟩ := h
  obtain rfl := Text.eq_append_of_cut? hcut
  cases hfront : front.toList with
  | nil =>
    have hdash : c = '-' := by simpa [hfront] using (congrArg List.head? hs).symm
    subst hdash
    cases hc
  | cons d more =>
    obtain rfl : d = c := by simpa [hfront] using congrArg List.head? hs
    exact ⟨d, more, hfront, hc⟩

theorem not_unopened_append (front : String) (h : ¬ Unopened s) : ¬ Unopened (front ++ s) :=
  fun hun => h fun c hc => hun c (by simp [hc])

/-- No keyword has a bracket. -/
theorem inTable?_of_not_unopened {table : List (String × List Declaration)} (h : ¬ Unopened s)
    (htable : ∀ e ∈ table, Unopened e.1) : Utility.inTable? table s = none := by
  rw [Option.eq_none_iff_forall_ne_some]
  intro u hu
  obtain ⟨declarations, hmem, -⟩ := Utility.exists_of_inTable? hu
  exact h (htable _ hmem)

theorem contains_of_not_unopened {keywords : List String} (h : ¬ Unopened s)
    (hkeywords : ∀ k ∈ keywords, Unopened k) : keywords.contains s = false := by
  rw [List.contains_eq_mem, decide_eq_false_iff_not]
  exact fun hmem => h (hkeywords s hmem)

namespace Value

/-- The number behind a slash would have to end with a bracket. -/
theorem splitOpacity_of_arbitrary? (h : arbitrary? s = some v) : splitOpacity s = (s, none) := by
  obtain ⟨opening, closing, inner, hbrackets, hs⟩ := exists_brackets_of_arbitrary? h
  have hlast : ∀ c, s.toList.getLast? = some c → Text.isAsciiDigit c = false := by
    rw [hs]
    rcases hbrackets with ⟨-, rfl⟩ | ⟨-, rfl⟩ <;> simp <;> decide
  rw [splitOpacity]
  split
  · rename_i base a hcut
    split
    · rename_i hdigits
      obtain ⟨hne, hall⟩ : a.toList ≠ [] ∧ ∀ c ∈ a.toList, Text.isAsciiDigit c = true := by
        simpa [Text.isDigits] using hdigits
      obtain ⟨c, hc⟩ := Option.isSome_iff_exists.mp ((List.getLast?_isSome.mpr hne))
      have hend : s.toList.getLast? = some c := by
        rw [Text.eq_append_of_cutLast? hcut, String.toList_append, List.getLast?_append, hc]
        rfl
      have hdigit := hall c (List.mem_of_getLast? hc)
      rw [hlast c hend] at hdigit
      cases hdigit
    · rfl
  · rfl

theorem color?_of_arbitrary? {names : Names} (h : arbitrary? s = some v) :
    color? names s = some v := by
  simp [color?, splitOpacity_of_arbitrary? h, plainColor?, h]

/-- Each arbitrary value is either a color or not. -/
theorem isColor?_isSome (h : arbitrary? s = some v) : (isColor? s).isSome = true := by
  obtain ⟨⟨hint, w⟩, hhinted, -⟩ := Option.map_eq_some_iff.mp h
  rw [isColor?, hhinted]
  cases hint <;> rfl

end Value

namespace Utility

open Value

theorem tail?_append (word rest : String) : tail? word (word ++ ("-" ++ rest)) = some rest := by
  rw [tail?, after?_append]
  split
  · rename_i hempty
    simp [← String.toList_inj] at hempty
  · rename_i hafter
    obtain rfl := Option.some.inj hafter
    exact after?_append "-" rest
  · rename_i hnone
    cases hnone

theorem splitSide_of_opens {α : Type} {side? : String → Option α} (h : Opens s)
    (hside : ∀ key side, side? key = some side → Unopened key) : splitSide side? s = (none, s) := by
  have hnone : ∀ {key}, Opens key → side? key = none := by
    intro key hkey
    rw [Option.eq_none_iff_forall_ne_some]
    exact fun side hs => hkey.not_unopened (hside key side hs)
  rw [splitSide]
  split
  · rename_i front rest hcut
    rw [hnone (h.of_cut? hcut)]
  · rw [hnone h]

theorem lineWidth?_of_arbitrary? (h : arbitrary? s = some v) :
    lineWidth? s = if isColor? s = some true then none else some v := by
  obtain ⟨color, hcolor⟩ := Option.isSome_iff_exists.mp (isColor?_isSome h)
  rw [lineWidth?, if_neg (opens_of_arbitrary? h).ne_empty, hcolor]
  cases color <;> simp [h]

theorem fontSize?_of_arbitrary? (h : arbitrary? s = some v) :
    fontSize? s = if isColor? s = some true then none else some (one "font-size" v) := by
  obtain ⟨color, hcolor⟩ := Option.isSome_iff_exists.mp (isColor?_isSome h)
  have hsize : inTable? fontSizes s = none :=
    inTable?_of_not_unopened (opens_of_arbitrary? h).not_unopened (by decide)
  rw [fontSize?, hsize, hcolor, h]
  cases color <;> rfl

/-! ## The three families -/

theorem text_of_arbitrary? (names : Names) (h : arbitrary? value = some v) :
    utility? names ("text-" ++ value) =
      some (if isColor? value = some true then one "color" v else one "font-size" v) := by
  have hopens : ¬ Unopened value := (opens_of_arbitrary? h).not_unopened
  have hfamilies : Family.all.filter (·.begins "text-") = [.typography, .color] := by decide
  have hkeyword : inTable? textKeywords ("text-" ++ value) = none :=
    inTable?_of_not_unopened (not_unopened_append _ hopens) (by decide)
  have hclamp : Text.after? "line-clamp-" ("text-" ++ value) = none :=
    after?_append_of_apart (by decide) value
  have htypography : typography? ("text-" ++ value) = fontSize? value := by
    rw [typography?, hkeyword]
    simp [cutPrefix?, hclamp, after?_append]
  have hcolor : color? names ("text-" ++ value) = some (one "color" v) := by
    simp [Utility.color?, cutPrefix?, after?_append, color?_of_arbitrary? h]
  rw [utility?_append, hfamilies]
  simp only [List.findSome?_cons, Family.read, htypography, hcolor, fontSize?_of_arbitrary? h]
  by_cases hread : isColor? value = some true <;> simp [hread]

theorem border_of_arbitrary? (names : Names) (h : arbitrary? value = some v) :
    utility? names ("border-" ++ value) =
      some (if isColor? value = some true then one "border-color" v
        else ofList [("border-style", "solid"), ("border-width", v)]) := by
  have hopens : Opens value := opens_of_arbitrary? h
  have hfamily : Family.all.filter (·.begins "border-") = [.border] := by decide
  have hread : utility? names ("border-" ++ value) = border? names ("border-" ++ value) :=
    utility?_append_of_single hfamily value
  have htail : tail? "border" ("border-" ++ value) = some value := tail?_append "border" value
  have hstyle : ["solid", "dashed", "dotted", "double", "none", "hidden"].contains value = false :=
    contains_of_not_unopened hopens.not_unopened (by decide)
  have hside : splitSide (lookup? borderSides) value = (none, value) :=
    splitSide_of_opens hopens fun key side hs =>
      of_find?_map (fun k _ => Unopened k) hs (by decide)
  simp only [hread, border?, htail, Option.bind_eq_bind, Option.bind_some, hstyle, hside,
    lineWidth?_of_arbitrary? h, color?_of_arbitrary? h]
  by_cases hcolor : isColor? value = some true <;> simp [hcolor]

theorem ring_of_arbitrary? (names : Names) (h : arbitrary? value = some v) :
    utility? names ("ring-" ++ value) =
      some (if isColor? value = some true then one "--tw-ring-color" v
        else one "box-shadow" ("0 0 0 " ++ v ++ " var(--tw-ring-color, currentcolor)")) := by
  have hopens : Opens value := opens_of_arbitrary? h
  have hfamily : Family.all.filter (·.begins "ring-") = [.ring] := by decide
  have hread : utility? names ("ring-" ++ value) = ring? names ("ring-" ++ value) :=
    utility?_append_of_single hfamily value
  have hafter : Text.after? "ring" ("ring-" ++ value) = some ("-" ++ value) :=
    after?_append "ring" ("-" ++ value)
  simp only [hread, ring?, hafter, Option.bind_eq_bind, Option.bind_some, after?_append,
    if_neg hopens.ne_empty, lineWidth?_of_arbitrary? h, color?_of_arbitrary? h]
  by_cases hcolor : isColor? value = some true <;> simp [hcolor]

/-- **An arbitrary value is read alike** behind `text-`, `border-` and `ring-`: as a color in all
three places if it reads as one, and otherwise as a length in all three. -/
theorem arbitrary_read_alike (names : Names) (h : arbitrary? value = some v) :
    utility? names ("text-" ++ value) =
        some (if isColor? value = some true then one "color" v else one "font-size" v) ∧
      utility? names ("border-" ++ value) =
        some (if isColor? value = some true then one "border-color" v
          else ofList [("border-style", "solid"), ("border-width", v)]) ∧
      utility? names ("ring-" ++ value) =
        some (if isColor? value = some true then one "--tw-ring-color" v
          else one "box-shadow" ("0 0 0 " ++ v ++ " var(--tw-ring-color, currentcolor)")) :=
  ⟨text_of_arbitrary? names h, border_of_arbitrary? names h, ring_of_arbitrary? names h⟩

/-- A variable with a hint is a length, although a bare one is a color. -/
theorem arbitrary_read_alike_with_hint :
    arbitrary? "(length:--t-2/50)" = some "var(--t-2/50)" ∧
      isColor? "(length:--t-2/50)" = some false ∧
      utility? ⟨[], []⟩ ("text-" ++ "(length:--t-2/50)") = some (one "font-size" "var(--t-2/50)") ∧
      utility? ⟨[], []⟩ ("border-" ++ "(length:--t-2/50)") =
        some (ofList [("border-style", "solid"), ("border-width", "var(--t-2/50)")]) ∧
      utility? ⟨[], []⟩ ("ring-" ++ "(length:--t-2/50)") =
        some (one "box-shadow" "0 0 0 var(--t-2/50) var(--tw-ring-color, currentcolor)") := by
  have hvalue : arbitrary? "(length:--t-2/50)" = some "var(--t-2/50)" := by decide
  have hlength : isColor? "(length:--t-2/50)" = some false := by decide
  obtain ⟨htext, hborder, hring⟩ := arbitrary_read_alike ⟨[], []⟩ hvalue
  rw [hlength, if_neg (by decide)] at htext hborder hring
  exact ⟨hvalue, hlength, htext, hborder, hring⟩

end Utility
end LivePreview.Style
