import LivePreview.Proofs.WrittenValues
import LivePreview.Style.Utility
/-!
# The parts and the fronts of classes

The families read a class from the left: a sign, a word of a table, a side or an axis. Each of these
readings puts the class together from what it has taken off and what it leaves.

A family of utilities knows its classes by the words with which they begin (`Family.fronts`). Two
families that have no such word in common never know the same class, so a class whose front is given
is left to the few families that may begin with it (`utility?_append`); which ones these are is
computed from the front alone.
-/
namespace LivePreview.Style.Utility

open Value

/-! ## Parts that are read from the left -/

section

variable {c front rest value word : String} {u : Utility}

theorem exists_of_inTable? {table : List (String × List Declaration)}
    (h : inTable? table c = some u) : ∃ declarations, (c, declarations) ∈ table ∧
      u = ofList declarations := by
  obtain ⟨⟨key, declarations⟩, hfind, rfl⟩ := Option.map_eq_some_iff.mp h
  obtain rfl : key = c := by simpa using List.find?_some hfind
  exact ⟨declarations, List.mem_of_find?_eq_some hfind, rfl⟩

theorem exists_of_cutPrefix? {α : Type} {table : List (String × α)} {x : α}
    (h : cutPrefix? table c = some (x, rest)) :
    ∃ front, (front, x) ∈ table ∧ c = front ++ rest := by
  obtain ⟨⟨front, y⟩, hmem, hcut⟩ := List.exists_of_findSome?_eq_some h
  obtain ⟨r, hafter, heq⟩ := Option.map_eq_some_iff.mp hcut
  obtain ⟨rfl, rfl⟩ : y = x ∧ r = rest := by simpa using heq
  exact ⟨front, hmem, Text.after?_eq_some.mp hafter⟩

/-- What the table says of all its prefixes holds of the one that is cut off. -/
theorem exists_front_of_cutPrefix? {α : Type} {table : List (String × α)} {x : α}
    (P : String → α → Prop) (h : cutPrefix? table c = some (x, rest))
    (htable : ∀ e ∈ table, P e.1 e.2) : ∃ front, P front x ∧ c = front ++ rest := by
  obtain ⟨front, hmem, hc⟩ := exists_of_cutPrefix? h
  exact ⟨front, htable _ hmem, hc⟩

theorem eq_of_sign {negative : Bool} (h : sign c = (negative, rest)) :
    c = (if negative then "-" else "") ++ rest := by
  rw [sign] at h
  split at h
  · rename_i r hafter
    obtain ⟨rfl, rfl⟩ := Prod.mk.inj h
    exact Text.after?_eq_some.mp hafter
  · obtain ⟨rfl, rfl⟩ := Prod.mk.inj h
    exact String.empty_append.symm

theorem eq_of_tail? (h : tail? word c = some rest) :
    c = word ∧ rest = "" ∨ c = word ++ "-" ++ rest := by
  rw [tail?] at h
  split at h
  · rename_i hafter
    obtain rfl := Option.some.inj h
    exact .inl ⟨by simpa using Text.after?_eq_some.mp hafter, rfl⟩
  · rename_i hafter
    rw [Text.after?_eq_some.mp hafter, Text.after?_eq_some.mp h, String.append_assoc]
    exact .inr rfl
  · cases h

/-- A side is all that is left, or stands in front of a dash. -/
theorem eq_of_splitSide {α : Type} {side? : String → Option α} {side : Option α}
    (h : splitSide side? rest = (side, value)) : side = none ∧ value = rest ∨
      ∃ s a, side? s = some a ∧ side = some a ∧
        (rest = s ∧ value = "" ∨ rest = s ++ "-" ++ value) := by
  rw [splitSide] at h
  split at h
  · rename_i s r hcut
    split at h
    · rename_i a ha
      obtain ⟨rfl, rfl⟩ := Prod.mk.inj h
      exact .inr ⟨s, a, ha, rfl, .inr (Text.eq_append_of_cut? hcut)⟩
    · obtain ⟨rfl, rfl⟩ := Prod.mk.inj h
      exact .inl ⟨rfl, rfl⟩
  · split at h
    · rename_i a ha
      obtain ⟨rfl, rfl⟩ := Prod.mk.inj h
      exact .inr ⟨rest, a, ha, rfl, .inl ⟨rfl, rfl⟩⟩
    · obtain ⟨rfl, rfl⟩ := Prod.mk.inj h
      exact .inl ⟨rfl, rfl⟩

theorem exists_of_axes {names : List String} (h : axes rest = (names, value)) :
    ∃ front, (front, names) ∈ [("x-", ["x"]), ("y-", ["y"]), ("", ["x", "y"])] ∧
      rest = front ++ value := by
  rw [axes] at h
  split at h
  · rename_i v hafter
    obtain ⟨rfl, rfl⟩ := Prod.mk.inj h
    exact ⟨"x-", by decide, Text.after?_eq_some.mp hafter⟩
  split at h
  · rename_i v hafter
    obtain ⟨rfl, rfl⟩ := Prod.mk.inj h
    exact ⟨"y-", by decide, Text.after?_eq_some.mp hafter⟩
  · obtain ⟨rfl, rfl⟩ := Prod.mk.inj h
    exact ⟨"", by decide, String.empty_append.symm⟩

/-- What is read of a class that slides: a side, and behind a dash a distance. -/
theorem exists_of_slide? {phase : String} (h : slide? phase rest = some u) :
    ∃ side axis negative distance, side? side = some (axis, negative) ∧
      u = one ("--tw-" ++ phase ++ "-translate-" ++ axis) (negate negative distance) ∧
      (rest = side ∧ distance = "100%" ∨
        ∃ value, rest = side ++ "-" ++ value ∧ size? .width value = some distance) := by
  rw [slide?] at h
  split at h
  rename_i side amount hcut
  obtain ⟨⟨axis, negative⟩, hside, hread⟩ := Option.bind_eq_some_iff.mp h
  dsimp only at hread
  split at hcut
  · rename_i s value hdash
    obtain ⟨rfl, rfl⟩ := Prod.mk.inj hcut
    obtain ⟨distance, hdistance, hread⟩ := Option.bind_eq_some_iff.mp hread
    obtain rfl := Option.some.inj hread
    exact ⟨s, axis, negative, distance, hside, rfl,
      .inr ⟨value, Text.eq_append_of_cut? hdash, hdistance⟩⟩
  · obtain ⟨rfl, rfl⟩ := Prod.mk.inj hcut
    obtain ⟨distance, hdistance, hread⟩ := Option.bind_eq_some_iff.mp hread
    obtain rfl := Option.some.inj hdistance
    obtain rfl := Option.some.inj hread
    exact ⟨rest, axis, negative, "100%", hside, rfl, .inl ⟨rfl, rfl⟩⟩

end

/-! ## Words that exclude each other -/

/-- Whether no text begins with both words. -/
def apart (a b : String) : Bool :=
  !(bytes a).isPrefixOf (bytes b) && !(bytes b).isPrefixOf (bytes a)

variable {a b c front rest word : String} {words : List String} {u : Utility}

theorem bytes_append (a b : String) : bytes (a ++ b) = bytes a ++ bytes b := by
  simp [bytes, String.toByteArray_append, ByteArray.data_append]

theorem append_ne_append (h : apart a b = true) (x y : String) : a ++ x ≠ b ++ y := by
  intro heq
  have hbytes : bytes a ++ bytes x = bytes b ++ bytes y := by
    rw [← bytes_append, ← bytes_append, heq]
  simp only [apart, Bool.and_eq_true, Bool.not_eq_true', ← Bool.not_eq_true,
    List.isPrefixOf_iff_prefix] at h
  rcases List.prefix_or_prefix_of_prefix (List.prefix_append (bytes a) (bytes x))
    (hbytes ▸ List.prefix_append (bytes b) (bytes y)) with hprefix | hprefix
  · exact h.1 hprefix
  · exact h.2 hprefix

theorem after?_append_of_apart (h : apart word front = true) (rest : String) :
    Text.after? word (front ++ rest) = none := by
  rw [Option.eq_none_iff_forall_ne_some]
  intro r hr
  exact append_ne_append h r rest (Text.after?_eq_some.mp hr).symm

theorem after?_append (front rest : String) : Text.after? front (front ++ rest) = some rest :=
  Text.after?_eq_some.mpr rfl

theorem cutChars?_append_of_not_mem {sep : Char} {a : List Char} (h : sep ∉ a) (b : List Char) :
    Text.cutChars? [sep] (a ++ sep :: b) = some (a, b) := by
  induction a with
  | nil => simp [Text.cutChars?, Text.afterChars?]
  | cons c a ih =>
    obtain ⟨hc, ha⟩ : sep ≠ c ∧ sep ∉ a := by simpa using h
    simp [Text.cutChars?, Text.afterChars?, hc, ih ha]

/-- A text is cut at the first dash. -/
theorem cut?_append_of_not_mem (h : '-' ∉ front.toList) (rest : String) :
    Text.cut? "-" (front ++ "-" ++ rest) = some (front, rest) := by
  have hlist : (front ++ "-" ++ rest).toList = front.toList ++ '-' :: rest.toList := by simp
  rw [Text.cut?, hlist, show "-".toList = ['-'] from rfl, cutChars?_append_of_not_mem h]
  simp

/-! ## The families -/

/-- The families of utilities. -/
inductive Family where
  | display
  | inset
  | zIndex
  | overflow
  | appearance
  | flex
  | grid
  | align
  | gap
  | between
  | padding
  | sizing
  | typography
  | color
  | border
  | radius
  | ring
  | shadow
  | opacity
  | interaction
  | outline
  | transform
  | filter
  | transition
  | animation
  | enterExit
  | drawing
deriving DecidableEq, Repr

namespace Family

/-- The families in the order in which they are tried. -/
def all : List Family :=
  [display, inset, zIndex, overflow, appearance, flex, grid, align, gap, between, padding, sizing,
   typography, color, border, radius, ring, shadow, opacity, interaction, outline, transform,
   filter, transition, animation, enterExit, drawing]

/-- How a family reads a class. -/
def read (names : Names) : Family → String → Option Utility
  | display => display?
  | inset => inset?
  | zIndex => zIndex?
  | overflow => overflow?
  | appearance => appearance?
  | flex => flex?
  | grid => grid?
  | align => align?
  | gap => gap?
  | between => between?
  | padding => padding?
  | sizing => sizing?
  | typography => typography?
  | color => color? names
  | border => border? names
  | radius => radius? names
  | ring => ring? names
  | shadow => shadow?
  | opacity => opacity?
  | interaction => interaction?
  | outline => outline? names
  | transform => transform?
  | filter => filter?
  | transition => transition?
  | animation => animation?
  | enterExit => enterExit?
  | drawing => drawing? names

/-- The sides from and to which an element slides. -/
def slides : List String := ["top", "bottom", "left", "start", "right", "end"]

/-- The words with which the classes of a family begin; where a value is read, one of them is all
that stands in front of the value. -/
def fronts : Family → List String
  | display =>
    ["block", "inline", "flex", "grid", "contents", "flow-root", "table", "hidden", "static",
     "fixed", "absolute", "relative", "sticky"]
  | inset => insetEdges.map (·.1) ++ insetEdges.map ("-" ++ ·.1)
  | zIndex => ["z-"]
  | overflow => ["overflow-", "overflow-x-", "overflow-y-"]
  | appearance => ["visible", "invisible", "isolate", "aspect-", "object-", "sr-only"]
  | flex => ["flex-", "grow", "shrink", "basis-", "order-"]
  | grid => ["grid-cols-", "grid-rows-", "col-span-", "row-span-"]
  | align =>
    ["items-", "justify-items-", "justify-self-", "justify-", "self-", "content-", "place-items-",
     "place-content-"]
  | gap => ["gap-", "gap-x-", "gap-y-"]
  | between => ["space-x-", "space-y-"]
  | padding =>
    paddings.map (·.1 ++ "-") ++ margins.map (·.1 ++ "-") ++ margins.map ("-" ++ ·.1 ++ "-")
  | sizing => ["size-", "max-w-", "min-w-", "min-h-", "max-h-", "w-", "h-"]
  | typography =>
    ["text-", "font-", "leading-", "tracking-", "line-clamp-", "uppercase", "lowercase",
     "capitalize", "normal-case", "italic", "not-italic", "underline", "line-through",
     "no-underline", "truncate", "whitespace-", "break-", "antialiased"]
  | color => ["text-", "bg-"]
  | border => ["border", "border-"] ++ borderSides.map ("border-" ++ ·.1 ++ "-")
  | radius =>
    ["rounded", "rounded-"] ++
      ["t", "r", "b", "l", "tl", "tr", "br", "bl"].map ("rounded-" ++ · ++ "-")
  | ring => ["ring", "ring-"]
  | shadow => ["shadow"]
  | opacity => ["opacity-"]
  | interaction => ["cursor-", "select-", "pointer-events-", "outline-"]
  | outline => ["outline", "outline-", "outline-offset-"]
  | transform =>
    ["transform-", "origin-", "rotate-", "-rotate-"] ++
      ["", "x-", "y-"].flatMap fun axis =>
        ["translate-" ++ axis, "-translate-" ++ axis, "scale-" ++ axis, "-scale-" ++ axis]
  | filter => ["blur", "blur-", "backdrop-blur", "backdrop-blur-"]
  | transition => ["transition", "duration-", "ease-"]
  | animation => ["animate-"]
  | enterExit =>
    ["fade-in", "fade-out", "zoom-in", "zoom-out", "spin-in", "spin-out"].flatMap
        (fun word => [word, word ++ "-"]) ++
      slides.flatMap fun side =>
        ["slide-in-from-" ++ side, "slide-in-from-" ++ side ++ "-", "slide-out-to-" ++ side,
         "slide-out-to-" ++ side ++ "-"]
  | drawing => ["fill-", "stroke-"]

/-- Whether a class of the family may begin with a word. -/
def begins (family : Family) (word : String) : Bool :=
  family.fronts.any fun front => !apart front word

end Family

/-! ## What the families know -/

/-- Whether a class begins with one of the words. -/
def BeginsIn (words : List String) (c : String) : Prop := ∃ front ∈ words, ∃ rest, c = front ++ rest

/-- Whether a family knows only classes that begin with one of the words. -/
def Fronted (words : List String) (family : String → Option Utility) : Prop :=
  ∀ {c u}, family c = some u → BeginsIn words c

theorem beginsIn_append (h : front ∈ words) (rest : String) : BeginsIn words (front ++ rest) :=
  ⟨front, h, rest, rfl⟩

theorem BeginsIn.of_after? (h : Text.after? front c = some rest) (hfront : front ∈ words) :
    BeginsIn words c :=
  ⟨front, hfront, rest, Text.after?_eq_some.mp h⟩

theorem BeginsIn.of_cutPrefix? {α : Type} {table : List (String × α)} {x : α}
    (h : cutPrefix? table c = some (x, rest)) (htable : ∀ e ∈ table, e.1 ∈ words) :
    BeginsIn words c := by
  obtain ⟨front, hfront, rfl⟩ := exists_front_of_cutPrefix? (fun front _ => front ∈ words) h htable
  exact beginsIn_append hfront rest

theorem BeginsIn.of_tail? (h : tail? word c = some rest) (hword : word ∈ words) :
    BeginsIn words c := by
  rcases eq_of_tail? h with ⟨rfl, -⟩ | rfl
  · exact ⟨c, hword, "", by simp⟩
  · rw [String.append_assoc]
    exact beginsIn_append hword _

theorem BeginsIn.of_inTable? {table : List (String × List Declaration)}
    (h : inTable? table c = some u)
    (htable : ∀ e ∈ table, ∃ front ∈ words, Text.startsWith front e.1 = true) :
    BeginsIn words c := by
  obtain ⟨declarations, hmem, -⟩ := exists_of_inTable? h
  obtain ⟨front, hfront, hstarts⟩ := htable _ hmem
  obtain ⟨rest, hrest⟩ := Option.isSome_iff_exists.mp hstarts
  exact .of_after? hrest hfront

theorem BeginsIn.of_lookup? {table : List (String × String)} {v : String}
    (h : lookup? table c = some v)
    (htable : ∀ e ∈ table, ∃ front ∈ words, Text.startsWith front e.1 = true) :
    BeginsIn words c := by
  obtain ⟨front, hfront, hstarts⟩ : ∃ front ∈ words, Text.startsWith front c = true :=
    of_find?_map (fun key _ => ∃ front ∈ words, Text.startsWith front key = true) h htable
  obtain ⟨rest, hrest⟩ := Option.isSome_iff_exists.mp hstarts
  exact .of_after? hrest hfront

namespace Family

variable {names : Names}

theorem fronted_display : Fronted display.fronts display? := fun h =>
  .of_inTable? h (by decide +kernel)

theorem fronted_inset : Fronted inset.fronts inset? := by
  intro c u h
  rw [inset?] at h
  split at h
  rename_i negative rest hsign
  obtain ⟨⟨edges, value⟩, hcut, -⟩ := Option.bind_eq_some_iff.mp h
  obtain ⟨front, hmem, rfl⟩ := exists_of_cutPrefix? hcut
  rw [eq_of_sign hsign, ← String.append_assoc]
  refine beginsIn_append ?_ value
  have hfronts : ∀ e ∈ insetEdges, e.1 ∈ inset.fronts ∧ "-" ++ e.1 ∈ inset.fronts := by decide
  cases negative with
  | false => simpa using (hfronts _ hmem).1
  | true => exact (hfronts _ hmem).2

theorem fronted_zIndex : Fronted zIndex.fronts zIndex? := by
  intro c u h
  obtain ⟨value, hafter, -⟩ := Option.bind_eq_some_iff.mp h
  exact .of_after? hafter (by decide)

theorem fronted_overflow : Fronted overflow.fronts overflow? := by
  intro c u h
  obtain ⟨⟨property, value⟩, hcut, -⟩ := Option.bind_eq_some_iff.mp h
  exact .of_cutPrefix? hcut (by decide)

theorem fronted_appearance : Fronted appearance.fronts appearance? := fun h =>
  .of_inTable? h (by decide)

theorem fronted_flex : Fronted flex.fronts flex? := by
  intro c u h
  rw [flex?] at h
  split at h
  · rename_i w hw
    exact .of_inTable? hw (by decide)
  split at h
  · rename_i value hafter
    exact .of_after? hafter (by decide)
  split at h
  · rename_i value hafter
    exact .of_after? hafter (by decide)
  · cases h

theorem fronted_grid : Fronted grid.fronts grid? := by
  intro c u h
  obtain ⟨⟨⟨property, isSpan⟩, value⟩, hcut, -⟩ := Option.bind_eq_some_iff.mp h
  exact .of_cutPrefix? hcut (by decide)

theorem fronted_align : Fronted align.fronts align? := by
  intro c u h
  obtain ⟨⟨property, value⟩, hcut, -⟩ := Option.bind_eq_some_iff.mp h
  exact .of_cutPrefix? hcut (by decide)

theorem fronted_gap : Fronted gap.fronts gap? := by
  intro c u h
  obtain ⟨⟨property, value⟩, hcut, -⟩ := Option.bind_eq_some_iff.mp h
  exact .of_cutPrefix? hcut (by decide)

theorem fronted_between : Fronted between.fronts between? := by
  intro c u h
  obtain ⟨⟨property, value⟩, hcut, -⟩ := Option.bind_eq_some_iff.mp h
  exact .of_cutPrefix? hcut (by decide)

theorem fronted_padding : Fronted padding.fronts padding? := by
  intro c u h
  rw [padding?] at h
  split at h
  rename_i negative rest hsign
  obtain ⟨⟨key, value⟩, hcut, h⟩ := Option.bind_eq_some_iff.mp h
  rw [eq_of_sign hsign, Text.eq_append_of_cut? hcut]
  dsimp only at h
  split at h
  · rename_i property hlookup
    have hkey : key ++ "-" ∈ padding.fronts ∧ "-" ++ key ++ "-" ∈ padding.fronts :=
      of_find?_map (fun k _ => k ++ "-" ∈ padding.fronts ∧ "-" ++ k ++ "-" ∈ padding.fronts)
        hlookup (by decide)
    rw [← String.append_assoc, ← String.append_assoc]
    refine beginsIn_append ?_ value
    cases negative with
    | false => simpa using hkey.1
    | true => exact hkey.2
  · obtain ⟨property, hlookup, h⟩ := Option.bind_eq_some_iff.mp h
    have hkey : key ++ "-" ∈ padding.fronts :=
      of_find?_map (fun k _ => k ++ "-" ∈ padding.fronts) hlookup (by decide)
    -- there is no padding below zero
    cases negative with
    | false => simpa using beginsIn_append hkey value
    | true => cases h

theorem fronted_sizing : Fronted sizing.fronts sizing? := by
  intro c u h
  rw [sizing?] at h
  split at h
  · rename_i value hafter
    exact .of_after? hafter (by decide)
  split at h
  · rename_i value hafter
    exact .of_after? hafter (by decide)
  · obtain ⟨⟨⟨property, axis⟩, value⟩, hcut, -⟩ := Option.bind_eq_some_iff.mp h
    exact .of_cutPrefix? hcut (by decide)

theorem fronted_typography : Fronted typography.fronts typography? := by
  intro c u h
  rw [typography?] at h
  split at h
  · rename_i w hw
    exact .of_inTable? hw (by decide +kernel)
  · obtain ⟨⟨read, value⟩, hcut, -⟩ := Option.bind_eq_some_iff.mp h
    refine .of_cutPrefix? hcut ?_
    simp only [List.forall_mem_cons]
    decide

theorem fronted_color : Fronted color.fronts (color? names) := by
  intro c u h
  obtain ⟨⟨property, value⟩, hcut, -⟩ := Option.bind_eq_some_iff.mp h
  exact .of_cutPrefix? hcut (by decide)

theorem fronted_border : Fronted border.fronts (border? names) := by
  intro c u h
  obtain ⟨rest, htail, -⟩ := Option.bind_eq_some_iff.mp h
  exact .of_tail? htail (by decide)

theorem fronted_radius : Fronted radius.fronts (radius? names) := by
  intro c u h
  obtain ⟨rest, htail, -⟩ := Option.bind_eq_some_iff.mp h
  exact .of_tail? htail (by decide)

theorem fronted_ring : Fronted ring.fronts (ring? names) := by
  intro c u h
  obtain ⟨rest, hafter, -⟩ := Option.bind_eq_some_iff.mp h
  exact .of_after? hafter (by decide)

theorem fronted_shadow : Fronted shadow.fronts shadow? := by
  intro c u h
  obtain ⟨v, hlookup, -⟩ := Option.map_eq_some_iff.mp h
  exact .of_lookup? hlookup (by decide)

theorem fronted_opacity : Fronted opacity.fronts opacity? := by
  intro c u h
  obtain ⟨value, hafter, -⟩ := Option.bind_eq_some_iff.mp h
  exact .of_after? hafter (by decide)

theorem fronted_interaction : Fronted interaction.fronts interaction? := by
  intro c u h
  rw [interaction?] at h
  split at h
  · rename_i value hafter
    exact .of_after? hafter (by decide)
  split at h
  · rename_i value hafter
    exact .of_after? hafter (by decide)
  · exact .of_inTable? h (by decide)

theorem fronted_outline : Fronted outline.fronts (outline? names) := by
  intro c u h
  obtain ⟨rest, hafter, -⟩ := Option.bind_eq_some_iff.mp h
  exact .of_after? hafter (by decide)

theorem fronted_transform : Fronted transform.fronts transform? := by
  intro c u h
  rw [transform?] at h
  split at h
  rename_i negative rest hsign
  have hword : ∀ {word value}, word ∈ transform.fronts ∧ "-" ++ word ∈ transform.fronts →
      Text.after? word rest = some value → BeginsIn transform.fronts c := by
    intro word value hfronts hafter
    rw [eq_of_sign hsign, Text.after?_eq_some.mp hafter, ← String.append_assoc]
    refine beginsIn_append ?_ value
    cases negative with
    | false => simpa using hfronts.1
    | true => exact hfronts.2
  split at h
  · rename_i value hafter
    exact hword (by decide) hafter
  split at h
  · rename_i value hafter
    exact hword (by decide) hafter
  split at h
  · rename_i value hafter
    exact hword (by decide) hafter
  · exact .of_inTable? h (by decide)

theorem fronted_filter : Fronted filter.fronts filter? := by
  intro c u h
  obtain ⟨⟨property, rest⟩, hcut, -⟩ := Option.bind_eq_some_iff.mp h
  exact .of_cutPrefix? hcut (by decide)

theorem fronted_transition : Fronted transition.fronts transition? := by
  intro c u h
  rw [transition?] at h
  split at h
  · rename_i properties hlookup
    exact .of_lookup? hlookup (by decide)
  split at h
  · rename_i hnone
    exact ⟨"transition", by decide, "-none", hnone⟩
  split at h
  · rename_i value hafter
    exact .of_after? hafter (by decide)
  · obtain ⟨value, hafter, -⟩ := Option.bind_eq_some_iff.mp h
    exact .of_after? hafter (by decide)

theorem fronted_animation : Fronted animation.fronts animation? := by
  intro c u h
  obtain ⟨v, hlookup, -⟩ := Option.map_eq_some_iff.mp h
  exact .of_lookup? hlookup (by decide)

theorem fronted_enterExit : Fronted enterExit.fronts enterExit? := by
  intro c u h
  rw [enterExit?] at h
  split at h
  · rename_i phase kind amount hcut
    exact .of_cutPrefix? hcut (by decide)
  · obtain ⟨⟨phase, rest⟩, hcut, hslide⟩ := Option.bind_eq_some_iff.mp h
    obtain ⟨front, hmem, rfl⟩ := exists_of_cutPrefix? hcut
    obtain ⟨side, axis, negative, distance, hside, -, hrest⟩ := exists_of_slide? hslide
    have hfronts : ∀ e ∈ [("slide-in-from-", "enter"), ("slide-out-to-", "exit")],
        e.1 ++ side ∈ enterExit.fronts :=
      of_find?_map (fun s _ => ∀ e ∈ [("slide-in-from-", "enter"), ("slide-out-to-", "exit")],
        e.1 ++ s ∈ enterExit.fronts) hside (by decide)
    rcases hrest with ⟨rfl, -⟩ | ⟨value, rfl, -⟩
    · exact ⟨_, hfronts _ hmem, "", by simp⟩
    · rw [← String.append_assoc, ← String.append_assoc, String.append_assoc]
      exact beginsIn_append (hfronts _ hmem) _

theorem fronted_drawing : Fronted drawing.fronts (drawing? names) := by
  intro c u h
  rw [drawing?] at h
  split at h
  · rename_i value hafter
    exact .of_after? hafter (by decide)
  split at h
  · rename_i value hafter
    exact .of_after? hafter (by decide)
  · cases h

theorem fronted (family : Family) : Fronted family.fronts (family.read names) := by
  cases family with
  | display => exact fronted_display
  | inset => exact fronted_inset
  | zIndex => exact fronted_zIndex
  | overflow => exact fronted_overflow
  | appearance => exact fronted_appearance
  | flex => exact fronted_flex
  | grid => exact fronted_grid
  | align => exact fronted_align
  | gap => exact fronted_gap
  | between => exact fronted_between
  | padding => exact fronted_padding
  | sizing => exact fronted_sizing
  | typography => exact fronted_typography
  | color => exact fronted_color
  | border => exact fronted_border
  | radius => exact fronted_radius
  | ring => exact fronted_ring
  | shadow => exact fronted_shadow
  | opacity => exact fronted_opacity
  | interaction => exact fronted_interaction
  | outline => exact fronted_outline
  | transform => exact fronted_transform
  | filter => exact fronted_filter
  | transition => exact fronted_transition
  | animation => exact fronted_animation
  | enterExit => exact fronted_enterExit
  | drawing => exact fronted_drawing

/-- A family that may not begin with a word knows no class with that front. -/
theorem read_append_of_not_begins {family : Family} (h : family.begins front = false)
    (rest : String) : family.read names (front ++ rest) = none := by
  rw [Option.eq_none_iff_forall_ne_some]
  intro u hu
  obtain ⟨word, hword, more, heq⟩ := fronted family hu
  have hapart : apart word front = true := by
    simpa using List.any_eq_false.mp h word hword
  exact append_ne_append hapart more rest heq.symm

end Family

theorem families_eq_map (names : Names) : families names = Family.all.map (Family.read names) := rfl

/-- **A class whose front is given** is left to the families that may begin with that front. -/
theorem utility?_append (names : Names) (front rest : String) :
    utility? names (front ++ rest) = (Family.all.filter (·.begins front)).findSome? fun family =>
      family.read names (front ++ rest) := by
  have hskip : ∀ families : List Family,
      (families.findSome? fun f => f.read names (front ++ rest)) =
        (families.filter (·.begins front)).findSome? fun f => f.read names (front ++ rest) := by
    intro families
    induction families with
    | nil => rfl
    | cons family families ih =>
      rw [List.filter_cons, List.findSome?_cons, ih]
      cases hbegins : family.begins front with
      | true => rw [if_pos rfl, List.findSome?_cons]
      | false => rw [Family.read_append_of_not_begins hbegins, if_neg (by decide)]
  rw [utility?, families_eq_map, List.findSome?_map]
  exact hskip Family.all

example : Family.all.filter (·.begins "text-") = [.typography, .color] := by decide

/-- A class that only one family may know is read by that family. -/
theorem utility?_append_of_single {names : Names} {family : Family}
    (h : Family.all.filter (·.begins front) = [family]) (rest : String) :
    utility? names (front ++ rest) = family.read names (front ++ rest) := by
  rw [utility?_append, h, List.findSome?_singleton]

end LivePreview.Style.Utility
