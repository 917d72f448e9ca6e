import LivePreview.Json.Read
import LivePreview.Style.Selector
import LivePreview.Text.Letters
/-!
# Reading class selectors back

A reader of selectors takes a backslash with the hexadecimal digits behind it and one space for the
character of that number, and a backslash with any other character for that character
(`Selector.glyphs?`). It reads a class back from its selector, character by character and whatever
stands behind it (`Selector.glyphs?_escapeChars`), and finds each character that means something in
a selector behind a backslash. So no two classes have the same selector
(`Selector.class_of_selector`).

No character that is escaped by itself is a hexadecimal digit, and the number of a digit in front
ends with its space: a reader takes nothing along that belongs to the next character.
-/
namespace LivePreview.Style.Selector

/-! ## A reader of escapes -/

/-- A character of a name as a reader of selectors finds it. -/
structure Glyph where
  char : Char
  /-- Whether the character is written by an escape. -/
  escaped : Bool
deriving DecidableEq, Repr

/-- Where a reader of escapes stands. -/
inductive Reading where
  /-- Outside of escapes. -/
  | plain
  /-- Behind a backslash. -/
  | backslash
  /-- Behind digits of the number of a character. -/
  | number (n : Nat)

/-- The characters that a text spells, if all its escapes are complete. -/
def glyphsFrom? : Reading → List Char → Option (List Glyph)
  | .plain, [] => some []
  | .plain, c :: r =>
    if c = '\\' then glyphsFrom? .backslash r
    else (glyphsFrom? .plain r).map (⟨c, false⟩ :: ·)
  | .backslash, [] => none
  | .backslash, c :: r =>
    match Json.hexDigit? c with
    | some d => glyphsFrom? (.number d) r
    | none => (glyphsFrom? .plain r).map (⟨c, true⟩ :: ·)
  | .number _, [] => none
  | .number n, c :: r =>
    match Json.hexDigit? c with
    | some d => glyphsFrom? (.number (16 * n + d)) r
    | none =>
      if c = ' ' ∧ n.isValidChar then (glyphsFrom? .plain r).map (⟨Char.ofNat n, true⟩ :: ·)
      else none

/-- The characters that a text spells. -/
def glyphs? (s : String) : Option (List Glyph) := glyphsFrom? .plain s.toList

/-- The marks that start another selector behind a class, or end its list of selectors. -/
def delimiters : List Char :=
  ['.', ':', ',', '>', '+', '~', '[', ']', '(', ')', '\x7b', '\x7d']

/-- The text that is spelled. -/
def unescape? (s : String) : Option String :=
  (glyphs? s).map fun glyphs => String.ofList (glyphs.map (·.char))

/-! ## What the reader finds -/

variable {c : Char}

theorem hexDigit?_of_special (h : c ∈ special) : Json.hexDigit? c = none := by
  have hall : special.all (fun c => (Json.hexDigit? c).isNone) = true := by decide
  simpa using List.all_eq_true.mp hall c h

theorem hexDigit?_of_isAsciiDigit (h : Text.isAsciiDigit c = true) :
    Json.hexDigit? c = some (c.toNat - 48) := by
  rw [Text.isAsciiDigit] at h
  rw [Json.hexDigit?, if_pos h]

/-- A character is found as it was written. -/
theorem glyphsFrom?_escapeChar (c : Char) (rest : List Char) :
    glyphsFrom? .plain (escapeChar c ++ rest) =
      (glyphsFrom? .plain rest).map (⟨c, special.contains c⟩ :: ·) := by
  by_cases hc : c ∈ special
  · -- behind the backslash it is not taken for a digit of a number
    simp [escapeChar, hc, glyphsFrom?, hexDigit?_of_special hc]
  · have hback : c ≠ '\\' := by
      rintro rfl
      exact hc (by decide)
    simp [escapeChar, hc, glyphsFrom?, hback]

/-- A digit is found behind its number, which ends at the space. -/
theorem glyphsFrom?_digit (hc : Text.isAsciiDigit c = true) (rest : List Char) :
    glyphsFrom? .plain ('\\' :: '3' :: c :: ' ' :: rest) =
      (glyphsFrom? .plain rest).map (⟨c, true⟩ :: ·) := by
  obtain ⟨hlow, hhigh⟩ := Text.isAsciiDigit_iff.mp hc
  have hthree : Json.hexDigit? '3' = some 3 := by decide
  have hspace : Json.hexDigit? ' ' = none := by decide
  have hnumber : 16 * 3 + (c.toNat - 48) = c.toNat := by omega
  have hvalid : c.toNat.isValidChar := .inl (by omega)
  simp [glyphsFrom?, hthree, hexDigit?_of_isAsciiDigit hc, hspace, hnumber, hvalid,
    Char.ofNat_toNat]

/-- A class as a reader of its selector finds it. -/
def glyphsOf : List Char → List Glyph
  | [] => []
  | c :: r =>
    ⟨c, Text.isAsciiDigit c || special.contains c⟩ :: r.map fun d => ⟨d, special.contains d⟩

theorem glyphsFrom?_flatMap (s rest : List Char) :
    glyphsFrom? .plain (s.flatMap escapeChar ++ rest) =
      (glyphsFrom? .plain rest).map ((s.map fun d => ⟨d, special.contains d⟩) ++ ·) := by
  induction s with
  | nil => simp
  | cons c s ih =>
    rw [List.flatMap_cons, List.append_assoc, glyphsFrom?_escapeChar, ih, Option.map_map]
    rfl

/-- **A class is read back from its selector**, whatever stands behind it. -/
theorem glyphs?_escapeChars (s rest : List Char) :
    glyphsFrom? .plain (escapeChars s ++ rest) =
      (glyphsFrom? .plain rest).map (glyphsOf s ++ ·) := by
  cases s with
  | nil => simp [escapeChars, glyphsOf]
  | cons c s =>
    rw [escapeChars, List.append_assoc]
    by_cases hc : '0' ≤ c ∧ c ≤ '9'
    · have hdigit : Text.isAsciiDigit c = true := by simpa [Text.isAsciiDigit] using hc
      rw [if_pos hc]
      simp only [List.cons_append, List.nil_append]
      rw [glyphsFrom?_digit hdigit, glyphsFrom?_flatMap, Option.map_map, glyphsOf, hdigit]
      rfl
    · have hdigit : Text.isAsciiDigit c = false := by simpa [Text.isAsciiDigit] using hc
      rw [if_neg hc, glyphsFrom?_escapeChar, glyphsFrom?_flatMap, Option.map_map, glyphsOf, hdigit]
      rfl

theorem glyphs?_escape (s : String) : glyphs? (escape s) = some (glyphsOf s.toList) := by
  have hread := glyphs?_escapeChars s.toList []
  rw [List.append_nil] at hread
  simpa [glyphs?, escape, glyphsFrom?] using hread

theorem map_char_glyphsOf (s : List Char) : (glyphsOf s).map (·.char) = s := by
  cases s <;> simp [glyphsOf, Function.comp_def]

theorem unescape?_escape (s : String) : unescape? (escape s) = some s := by
  rw [unescape?, glyphs?_escape, Option.map_some, map_char_glyphsOf, String.ofList_toList]

theorem escaped_of_head?_glyphsOf {s : List Char} {g : Glyph} (h : g ∈ (glyphsOf s).head?)
    (hdigit : Text.isAsciiDigit g.char = true) : g.escaped = true := by
  cases s with
  | nil => cases h
  | cons c r =>
    obtain rfl := Option.some.inj h
    simp [hdigit]

theorem escaped_of_mem_glyphsOf {s : List Char} {g : Glyph} (h : g ∈ glyphsOf s)
    (hspecial : g.char ∈ special) : g.escaped = true := by
  cases s with
  | nil => cases h
  | cons c r =>
    rcases List.mem_cons.mp h with rfl | h
    · simp [hspecial]
    · obtain ⟨d, -, rfl⟩ := List.mem_map.mp h
      simpa using hspecial

/-- **A class is known by its selector.** A reader of selectors reads the class back, so two classes
never share a selector. It finds no digit in front and none of the marks that would start another
selector, or end this one, unless they are escaped. -/
theorem class_of_selector (s : String) :
    unescape? (escape s) = some s ∧
      (∀ other, ofClass s = ofClass other → s = other) ∧
      ∃ glyphs, glyphs? (escape s) = some glyphs ∧
        (∀ g ∈ glyphs.head?, Text.isAsciiDigit g.char = true → g.escaped = true) ∧
        ∀ g ∈ glyphs, g.char ∈ delimiters → g.escaped = true := by
  refine ⟨unescape?_escape s, fun other h => ?_, _, glyphs?_escape s,
    fun g => escaped_of_head?_glyphsOf, fun g hg hmark => escaped_of_mem_glyphsOf hg ?_⟩
  · have hescape : escape s = escape other := by simpa [ofClass] using h
    have hread := unescape?_escape s
    rw [hescape, unescape?_escape other] at hread
    exact (Option.some.inj hread).symm
  · have hall : delimiters.all special.contains = true := by decide
    simpa using List.all_eq_true.mp hall _ hmark

/-- A digit in front, with a letter behind its number that is no part of it. -/
theorem class_of_selector_with_digit :
    ofClass "2xl:p-4" = ".\\32 xl\\:p-4" ∧ unescape? "\\32 xl\\:p-4" = some "2xl:p-4" ∧
      ∃ g, (∃ glyphs, glyphs? "\\32 xl\\:p-4" = some glyphs ∧ g ∈ glyphs.head?) ∧
        Text.isAsciiDigit g.char = true ∧ g.escaped = true := by
  have hescape : escape "2xl:p-4" = "\\32 xl\\:p-4" := by decide
  have hclass : ofClass "2xl:p-4" = ".\\32 xl\\:p-4" := by decide
  obtain ⟨hread, -, glyphs, hglyphs, hfront, -⟩ := class_of_selector "2xl:p-4"
  rw [hescape] at hread hglyphs
  have hfirst : (⟨'2', true⟩ : Glyph) ∈ glyphs.head? := by
    have hhead : (glyphs? "\\32 xl\\:p-4").bind List.head? = some ⟨'2', true⟩ := by decide
    rwa [hglyphs] at hhead
  exact ⟨hclass, hread, _, ⟨glyphs, hglyphs, hfirst⟩, by decide, hfront _ hfirst (by decide)⟩

end LivePreview.Style.Selector
