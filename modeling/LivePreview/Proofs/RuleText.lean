import LivePreview.Proofs.UtilityText
import LivePreview.Style.Compiler
/-!
# The text of a rule

A rule puts a selector, conditions on the screen and declarations together. A class can always be
named in a selector, each variant of a stack keeps a closed selector closed if its own text is, and
a rule made of closed texts is one block with all its brackets closed (`Rule.Sound.closed_text`).
-/
namespace LivePreview.Style

/-! ## Selectors -/

theorem readChars?_escapeChar (c : Char) :
    Place.start.readChars? (Selector.escapeChar c) = some Place.start := by
  rw [Selector.escapeChar]
  split
  · by_cases hc : c = '\\' <;> rfl
  · rename_i hc
    have hmarks : marks.all Selector.special.contains = true := by decide
    have hordinary : isOrdinary c = true := isOrdinary_of_all_marks hmarks (by simpa using hc)
    rw [Place.readChars?_cons, Place.next?_of_isOrdinary ⟨rfl, rfl⟩ hordinary]
    rfl

/-- Every class can be named. -/
theorem flat_ofClass (s : String) : Flat (Selector.ofClass s) := by
  have hrest : ∀ r : List Char,
      Place.start.readChars? (r.flatMap Selector.escapeChar) = some Place.start := by
    intro r
    induction r with
    | nil => rfl
    | cons c r ih =>
      rw [List.flatMap_cons, Place.readChars?_append, readChars?_escapeChar, Option.bind_some, ih]
  have hchars : ∀ r : List Char,
      Place.start.readChars? (Selector.escapeChars r) = some Place.start := by
    intro r
    cases r with
    | nil => rfl
    | cons c r =>
      rw [Selector.escapeChars, Place.readChars?_append]
      split
      · rename_i hc
        have hdigit : isOrdinary c = true := by
          refine isOrdinary_of_isAsciiDigit ?_
          rw [Text.isAsciiDigit]
          simpa using hc
        have hfront : Place.start.readChars? ['\\', '3', c, ' '] = some Place.start := by
          -- the backslash takes the mark of a number along
          change ((Place.start.next? c).bind fun p => p.readChars? [' ']) = _
          rw [Place.next?_of_isOrdinary ⟨rfl, rfl⟩ hdigit]
          rfl
        rw [hfront, Option.bind_some, hrest]
      · rw [readChars?_escapeChar, Option.bind_some, hrest]
  have hescape : Flat (Selector.escape s) := by
    rw [Flat, Closed, Place.read?, Selector.escape, String.toList_ofList]
    exact hchars s.toList
  exact Flat.append (by decide) hescape

/-! ## Variants -/

/-- Whether the text that a variant puts into a rule is closed. -/
def Variant.Sound : Variant → Prop
  | .state selector | .part selector | .group selector | .peer selector => Flat selector
  | .dark => True
  | .width _ least => Flat least
  | .template t => Frame (Text.replace "_" " " t)

namespace Scope

/-- Whether the texts of a scope are closed. -/
structure Sound (s : Scope) : Prop where
  selector : Flat s.selector
  media : ∀ m ∈ s.media, Flat m

variable {darkVariant selector : String} {s : Scope} {v : Variant} {vs : List Variant}

theorem Sound.add (hdark : Frame darkVariant) (hs : s.Sound) (hv : v.Sound) :
    (s.add darkVariant v).Sound := by
  obtain ⟨hselector, hmedia⟩ := hs
  cases v with
  | state state =>
    have hstate : Flat state := hv
    exact ⟨hselector.append hstate, hmedia⟩
  | part part => exact ⟨hselector, hmedia⟩
  | group state =>
    have hgroup : Flat (".group" ++ state) := Flat.append (by decide) hv
    exact ⟨(hgroup.append (by decide)).append hselector, hmedia⟩
  | peer state =>
    have hpeer : Flat (".peer" ++ state) := Flat.append (by decide) hv
    exact ⟨(hpeer.append (by decide)).append hselector, hmedia⟩
  | dark =>
    have hfilled : Flat (Text.replace "&" s.selector darkVariant) := hdark.fill hselector
    exact ⟨hfilled, hmedia⟩
  | width rank least =>
    have hleast : Complete least := .of_closed hv
    have hcondition : Flat ("(min-width: " ++ least ++ ")") := hleast.enclosed (by decide)
    exact ⟨hselector, by simpa [Scope.add, or_imp, forall_and] using ⟨hmedia, hcondition⟩⟩
  | template t =>
    have hfilled : Flat (Text.replace "&" s.selector (Text.replace "_" " " t)) :=
      Frame.fill hv hselector
    simp only [Scope.add]
    exact ⟨hfilled, hmedia⟩

theorem Sound.foldl_add (hdark : Frame darkVariant) (hs : s.Sound) (hvs : ∀ v ∈ vs, v.Sound) :
    (vs.foldl (Scope.add darkVariant) s).Sound := by
  induction vs generalizing s with
  | nil => exact hs
  | cons v vs ih =>
    exact ih (hs.add hdark (hvs v List.mem_cons_self)) fun w hw => hvs w (List.mem_cons_of_mem v hw)

theorem flat_lastPart (hvs : ∀ v ∈ vs, v.Sound) : Flat (lastPart vs) := by
  rw [lastPart]
  cases hlast : (vs.filterMap part?).getLast? with
  | none => decide
  | some part =>
    obtain ⟨v, hv, hpart⟩ := List.mem_filterMap.mp (List.mem_of_getLast? hlast)
    cases v with
    | part p =>
      obtain rfl := Option.some.inj hpart
      exact hvs _ hv
    | _ => cases hpart

/-- A stack of variants keeps a closed selector closed. -/
theorem sound_ofStack (hdark : Frame darkVariant) (hselector : Flat selector)
    (hvs : ∀ v ∈ vs, v.Sound) : (ofStack darkVariant selector vs).Sound := by
  have hstart : (ofSelector selector).Sound := ⟨hselector, by simp [ofSelector]⟩
  obtain ⟨hfold, hmedia⟩ := hstart.foldl_add hdark hvs
  exact ⟨hfold.append (flat_lastPart hvs), hmedia⟩

end Scope

/-! ## Rules -/

theorem complete_declarationText {declarations : List Declaration}
    (h : ∀ d ∈ declarations, Complete d.1 ∧ Complete d.2) :
    Complete (declarationText declarations) := by
  refine Complete.join fun t ht => ?_
  obtain ⟨d, hd, rfl⟩ := List.mem_map.mp ht
  obtain ⟨hproperty, hvalue⟩ := h d hd
  have hspace : Complete " " := ⟨0, by decide⟩
  exact (((hspace.append hproperty).append ⟨0, by decide⟩).append hvalue).append ⟨0, by decide⟩

theorem closed_ruleText {selector : String} {declarations : List Declaration}
    (hselector : Flat selector) (h : ∀ d ∈ declarations, Complete d.1 ∧ Complete d.2) :
    Closed 1 (ruleText selector declarations) := by
  have hblock : Encloses 1 " \x7b" " \x7d" := by decide
  have hrule := Closed.append hselector ((complete_declarationText h).enclosed hblock)
  simpa only [ruleText, String.append_assoc] using hrule

/-- Whether the texts of a rule are closed. -/
structure Rule.Sound (r : Rule) : Prop where
  selector : Flat r.selector
  declarations : ∀ d ∈ r.declarations, Complete d.1 ∧ Complete d.2
  media : ∀ m ∈ r.media, Flat m

theorem flat_joinWith {sep : String} {ts : List String} (hsep : Flat sep) (h : ∀ t ∈ ts, Flat t) :
    Flat (Text.joinWith sep ts) := by
  induction ts with
  | nil => exact (by decide : Flat "")
  | cons t r ih =>
    have ht : Flat t := h t List.mem_cons_self
    cases r with
    | nil => exact ht
    | cons u r => exact (ht.append hsep).append (ih fun v hv => h v (List.mem_cons_of_mem t hv))

/-- **A rule is one block with all its brackets closed.** -/
theorem Rule.Sound.closed_text {r : Rule} (h : r.Sound) : Closed 1 r.text := by
  have hbody := closed_ruleText h.selector h.declarations
  rw [Rule.text]
  split
  · have hindent : Flat "  " := by decide
    exact (Closed.append hindent hbody).append (by decide : Flat "\n")
  · have hmedia : Flat ("  @media " ++ Text.joinWith " and " r.media) :=
      Flat.append (by decide) (flat_joinWith (by decide) h.media)
    have hblock : Encloses 1 " \x7b " " \x7d\n" := by decide
    have hrule := Closed.append hmedia ((Complete.of_closed hbody).enclosed hblock)
    simpa only [String.append_assoc] using hrule

end LivePreview.Style
