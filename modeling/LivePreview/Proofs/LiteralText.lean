import LivePreview.Proofs.LiteralScan
import LivePreview.Script.Parser.Markup
import LivePreview.Transpile
import Mathlib.Data.List.TakeDrop
/-!
# How literals stand in a source

A literal is cut off the front of a text together with its quotes. What stands between them is a
text that may stand between quotes (`Quotable`): the lexer reads escapes of several characters, but
behind the first one, none of these is a quote or a backslash of its own. Only the string of an
attribute knows no escapes, and its last backslash may stand right in front of the closing quote.

The candidates of a source are to hold the words of its literals. The scan for them does not read
the tree: it looks for quotes in the text, and quotes also stand in comments, in the text between
tags and in literals of other kinds. Its answer for a literal depends on the text in front of that:
the literal is found if and only if the quotes in front of it are paired (`words_of_literal`). A
single apostrophe in the text of an element hides the literals behind it
(`words_of_literal_behind_apostrophe`).
-/
namespace LivePreview.Script

open Candidates

namespace Lexer

variable {q c : Char} {s rest w : List Char} {n k : Nat}

/-! ## Escapes -/

/-- Characters that neither close a literal nor begin an escape. -/
def Inert (q : Char) (w : List Char) : Prop := ∀ c ∈ w, c ≠ q ∧ c ≠ '\\'

/-- The two quotes of strings. -/
def IsStringQuote (q : Char) : Prop := q = '\'' ∨ q = '"'

theorem IsStringQuote.mem_quotes (hq : IsStringQuote q) : q ∈ quotes := by
  rcases hq with rfl | rfl <;> decide

theorem Inert.append {v : List Char} (hv : Inert q v) (hw : Inert q w) : Inert q (v ++ w) := by
  intro c hc
  rcases List.mem_append.mp hc with h | h
  · exact hv c h
  · exact hw c h

/-- A character of a class without quotes and backslashes. -/
theorem inert_of_class {p : Char → Bool} (hq : IsStringQuote q) (hsingle : p '\'' = false)
    (hdouble : p '"' = false) (hslash : p '\\' = false) (hc : p c = true) :
    c ≠ q ∧ c ≠ '\\' := by
  constructor
  · rintro rfl
    rcases hq with rfl | rfl
    · exact absurd hc (by simp [hsingle])
    · exact absurd hc (by simp [hdouble])
  · rintro rfl
    exact absurd hc (by simp [hslash])

theorem inert_of_hexDigit (hq : IsStringQuote q) (h : (Json.hexDigit? c).isSome = true) :
    c ≠ q ∧ c ≠ '\\' :=
  inert_of_class (p := fun c => (Json.hexDigit? c).isSome) hq rfl rfl rfl h

theorem isSome_of_foldlM_hexDigit {ds : List Char} {m : Nat}
    (h : ds.foldlM (fun n d => (Json.hexDigit? d).map fun v => 16 * n + v) m = some n) :
    ∀ d ∈ ds, (Json.hexDigit? d).isSome = true := by
  induction ds generalizing m with
  | nil => simp
  | cons d ds ih =>
    rw [List.foldlM_cons] at h
    cases hd : Json.hexDigit? d with
    | none => simp [hd] at h
    | some v =>
      simp only [hd, Option.map_some, Option.bind_eq_bind, Option.bind_some] at h
      intro e he
      rcases List.mem_cons.mp he with rfl | he
      · simp [hd]
      · exact ih h e he

theorem inert_of_hexValue (hq : IsStringQuote q) (h : hexValue? w = some n) : Inert q w := by
  simp only [hexValue?, Option.ite_none_left_eq_some] at h
  intro c hc
  exact inert_of_hexDigit hq (isSome_of_foldlM_hexDigit h.2 c hc)

theorem inert_of_hexQuad {a b d : Char} (hq : IsStringQuote q)
    (h : Json.hexQuad? a b c d = some n) : Inert q [a, b, c, d] := by
  simp only [Json.hexQuad?, Option.bind_eq_bind, Option.bind_eq_some_iff] at h
  obtain ⟨va, ha, vb, hb, vc, hc, vd, hd, -⟩ := h
  intro e he
  simp only [List.mem_cons, List.not_mem_nil, or_false] at he
  rcases he with rfl | rfl | rfl | rfl
  · exact inert_of_hexDigit hq (by simp [ha])
  · exact inert_of_hexDigit hq (by simp [hb])
  · exact inert_of_hexDigit hq (by simp [hc])
  · exact inert_of_hexDigit hq (by simp [hd])

/-- The digits of an escape, with braces around them or not, neither close a literal nor begin an
escape. -/
theorem unicodeEscape?_eq_some (hq : IsStringQuote q) (h : unicodeEscape? s = some (n, k, rest)) :
    ∃ w, s = w ++ rest ∧ Inert q w := by
  unfold unicodeEscape? at h
  split at h
  · rename_i r
    rw [List.span_eq_takeWhile_dropWhile] at h
    have hwhole :=
      List.takeWhile_append_dropWhile (p := fun c => (Json.hexDigit? c).isSome) (l := r)
    generalize r.takeWhile (fun c => (Json.hexDigit? c).isSome) = ds at h hwhole
    generalize r.dropWhile (fun c => (Json.hexDigit? c).isSome) = tail at h hwhole
    dsimp only at h
    split at h
    · rename_i rest'
      obtain ⟨m, hm, h⟩ := Option.bind_eq_some_iff.mp h
      split at h
      · obtain ⟨-, rfl, rfl⟩ : m = n ∧ ds.length + 2 = k ∧ rest' = rest := by simpa using h
        have hopen : Inert q ['{'] := by
          rcases hq with rfl | rfl <;> simp [Inert]
        have hclose : Inert q ['}'] := by
          rcases hq with rfl | rfl <;> simp [Inert]
        have hdigits : Inert q ds := inert_of_hexValue hq hm
        exact ⟨['{'] ++ (ds ++ ['}']), by simp [← hwhole],
          hopen.append (hdigits.append hclose)⟩
      · cases h
    · cases h
  · rename_i a b c d r _
    obtain ⟨m, hm, heq⟩ := Option.map_eq_some_iff.mp h
    obtain ⟨-, rfl, rfl⟩ : m = n ∧ 4 = k ∧ r = rest := by simpa using heq
    exact ⟨[a, b, c, d], rfl, inert_of_hexQuad hq hm⟩
  · cases h

/-- The two halves of a pair may be written one after the other, each as an escape. -/
theorem unicodeEscaped?_eq_some {e : Escaped} (hq : IsStringQuote q)
    (h : unicodeEscaped? s = some (e, k, rest)) :
    ∃ w, s = w ++ rest ∧ Quotable q w := by
  obtain ⟨⟨n, k', rest'⟩, hfirst, hthen⟩ := Option.bind_eq_some_iff.mp h
  clear h
  obtain ⟨w, rfl, hw⟩ := unicodeEscape?_eq_some hq hfirst
  -- the first escape alone is what is taken along, unless the second half follows it
  have halone : rest' = rest → ∃ v, w ++ rest' = v ++ rest ∧ Quotable q v := by
    rintro rfl
    exact ⟨w, rfl, .of_plain hw⟩
  dsimp only at hthen
  split at hthen
  · split at hthen
    · split at hthen
      · rename_i a b c d tail _
        obtain ⟨m, hm, hpair⟩ := Option.bind_eq_some_iff.mp hthen
        split at hpair
        · cases hpair
          refine ⟨w ++ '\\' :: 'u' :: [a, b, c, d], by simp, ?_⟩
          exact (Quotable.of_plain hw).append (.escape 'u' (.of_plain (inert_of_hexQuad hq hm)))
        · cases hpair
          exact halone rfl
      · cases hthen
    · cases hthen
      exact halone rfl
  · cases hthen
    exact halone rfl

/-- An octal escape takes along as many digits as there are, up to a limit. -/
theorem octalEscape {r : List Char} (hq : IsStringQuote q) (hc : octalDigit c = true) :
    let ds := ((c :: r).take (if c ≤ '3' then 3 else 2)).takeWhile octalDigit
    ∃ w, c :: r = w ++ (c :: r).drop ds.length ∧ Quotable q ('\\' :: w) := by
  intro ds
  obtain ⟨tail, htail⟩ : ds <+: c :: r :=
    (List.takeWhile_prefix octalDigit).trans (List.take_prefix _ _)
  have hdigits : Inert q ds := fun d hd =>
    inert_of_class hq rfl rfl rfl (List.all_eq_true.mp List.all_takeWhile d hd)
  refine ⟨ds, ?_, ?_⟩
  · rw [← htail, List.drop_left]
  · have hfirst : ∃ ds', ds = c :: ds' := by
      by_cases hlimit : c ≤ '3' <;> simp [ds, hlimit, hc]
    obtain ⟨ds', hds⟩ := hfirst
    rw [hds] at hdigits ⊢
    exact .escape c (.of_plain fun d hd => hdigits d (List.mem_cons_of_mem c hd))

/-- **An escape** may stand between quotes: what it takes along besides its first character does not
close the literal. -/
theorem escape?_eq_some {e : Escaped} (hq : IsStringQuote q)
    (h : escape? s = some (e, k, rest)) :
    ∃ w, s = w ++ rest ∧ Quotable q ('\\' :: w) := by
  have hbreak : '\n' ≠ q ∧ '\n' ≠ '\\' := by
    rcases hq with rfl | rfl <;> decide
  have hone (c : Char) : ∃ w, c :: rest = w ++ rest ∧ Quotable q ('\\' :: w) :=
    ⟨[c], rfl, .escape c .nil⟩
  unfold escape? at h
  split at h
  · cases h
  · cases h
    exact hone 'n'
  · cases h
    exact hone 't'
  · cases h
    exact hone 'r'
  · cases h
    exact hone 'b'
  · cases h
    exact hone 'v'
  · cases h
    exact hone 'f'
  · cases h
    exact ⟨['\r', '\n'], rfl, .escape _ (.plain hbreak.1 hbreak.2 .nil)⟩
  · rename_i a b r
    obtain ⟨n, hn, heq⟩ := Option.map_eq_some_iff.mp h
    cases heq
    exact ⟨['x', a, b], rfl, .escape _ (.of_plain (inert_of_hexValue hq hn))⟩
  · cases h
  · obtain ⟨⟨e', k', rest'⟩, hunicode, heq⟩ := Option.map_eq_some_iff.mp h
    cases heq
    obtain ⟨w, rfl, hw⟩ := unicodeEscaped?_eq_some hq hunicode
    exact ⟨'u' :: w, rfl, .escape _ hw⟩
  · rename_i c r _ _ _ _ _ _ _ _ _ _
    split at h
    · cases h
      exact hone c
    · split at h
      · rename_i hc
        cases h
        exact octalEscape hq hc
      · cases h
        exact hone c

/-! ## Literals -/

@[simp] theorem StringScan.add_closed (g : StringScan) (e : Escaped) :
    (g.add e).closed = g.closed := by
  cases e <;> rfl

@[simp] theorem StringScan.add_badEscape (g : StringScan) (e : Escaped) :
    (g.add e).badEscape = g.badEscape := by
  cases e <;> rfl

theorem isSome_badEscape_stringFrom {fuel : Nat} {g : StringScan} (h : g.badEscape.isSome = true) :
    (stringFrom q fuel g).badEscape.isSome = true := by
  fun_induction stringFrom q fuel g with
  | case1 | case2 | case5 | case6 => exact h
  | case3 fuel g r hrest e k rest he ih => exact ih (by simpa using h)
  | case4 fuel g r hrest he ih => exact ih (by simp)
  | case7 fuel g c r hrest hback hc hbreak ih => exact ih h

/-- **A string without a bad escape** goes on up to its closing quote with a text that may stand
between quotes. -/
theorem stringFrom_closed {fuel : Nat} {g : StringScan} (hq : IsStringQuote q)
    (hopen : g.closed = false) (hclosed : (stringFrom q fuel g).closed = true)
    (hsound : (stringFrom q fuel g).badEscape = none) :
    ∃ w, g.rest = w ++ q :: (stringFrom q fuel g).rest ∧ Quotable q w := by
  fun_induction stringFrom q fuel g with
  | case1 | case2 | case6 =>
    rw [hopen] at hclosed
    cases hclosed
  | case3 fuel g r hrest e k rest he ih =>
    obtain ⟨v, rfl, hv⟩ := escape?_eq_some hq he
    obtain ⟨w, hw, hquotable⟩ := ih (by simpa using hopen) hclosed hsound
    refine ⟨'\\' :: v ++ w, ?_, hv.append hquotable⟩
    rw [hrest, List.append_assoc, ← hw, List.cons_append]
  | case4 fuel g r hrest he ih =>
    rw [← Option.not_isSome_iff_eq_none] at hsound
    exact absurd (isSome_badEscape_stringFrom (by simp)) hsound
  | case5 fuel g c r hback hrest hc =>
    obtain rfl : c = q := by simpa using hc
    exact ⟨[], hrest, .nil⟩
  | case7 fuel g c r hback hrest hc hbreak ih =>
    obtain ⟨w, hw, hquotable⟩ := ih hopen hclosed hsound
    refine ⟨c :: w, ?_, .plain (by simpa using hc) hback hquotable⟩
    rw [hrest, List.cons_append, ← hw]

/-- A string that is read without an error. -/
theorem string_eq_append (hq : IsStringQuote q) (h : (string q (q :: s)).error = none) :
    ∃ w, s = w ++ q :: (string q (q :: s)).rest ∧ Quotable q w := by
  simp only [string, List.drop_succ_cons, List.drop_zero] at h ⊢
  split at h
  · rename_i hclosed
    obtain ⟨w, hw, hquotable⟩ := stringFrom_closed hq rfl hclosed (by simpa using h)
    rw [if_pos hclosed]
    exact ⟨w, hw, hquotable⟩
  · cases h

/-- The string of an attribute that is read without an error. -/
theorem attributeString_eq_append (h : (attributeString q (q :: s)).error = none) :
    ∃ w, s = w ++ q :: (attributeString q (q :: s)).rest ∧ ∀ c ∈ w, c ≠ q := by
  simp only [attributeString, List.drop_succ_cons, List.drop_zero,
    List.span_eq_takeWhile_dropWhile] at h ⊢
  have hwhole := List.takeWhile_append_dropWhile (p := fun c => c != q) (l := s)
  have hfree : ∀ c ∈ s.takeWhile (fun c => c != q), c ≠ q := fun c hc => by
    simpa using List.all_eq_true.mp List.all_takeWhile c hc
  cases hrest : s.dropWhile (fun c => c != q) with
  | nil => simp [hrest] at h
  | cons c r =>
    have hc : c = q := by
      have hhead := List.head?_dropWhile_not (fun c => c != q) s
      simpa [hrest] using hhead
    subst hc
    refine ⟨_, ?_, hfree⟩
    rw [← hrest, hwhole]

/-- **The raw text of a template without expressions** goes on up to the closing quote with a text
that may stand between quotes. -/
theorem templateFrom_eq_append {fuel m : Nat} {raw raw' : List Char}
    (h : templateFrom fuel raw n s = some (raw', m, true, rest)) :
    ∃ w, s = w ++ '`' :: rest ∧ Quotable '`' w := by
  have hbreaks : ('\r' ≠ '`' ∧ '\r' ≠ '\\') ∧ '\n' ≠ '`' ∧ '\n' ≠ '\\' := by decide
  fun_induction templateFrom fuel raw n s with
  | case1 | case2 | case4 => cases h
  | case3 fuel raw n r =>
    cases h
    exact ⟨[], rfl, .nil⟩
  | case5 fuel raw n r ih =>
    obtain ⟨w, rfl, hw⟩ := ih h
    exact ⟨'\\' :: '\r' :: '\n' :: w, rfl, .escape _ (.plain hbreaks.2.1 hbreaks.2.2 hw)⟩
  | case6 fuel raw n c r hcrlf ih =>
    obtain ⟨w, rfl, hw⟩ := ih h
    exact ⟨'\\' :: c :: w, rfl, .escape c hw⟩
  | case7 fuel raw n r ih =>
    obtain ⟨w, rfl, hw⟩ := ih h
    exact ⟨'\r' :: '\n' :: w, rfl,
      .plain hbreaks.1.1 hbreaks.1.2 (.plain hbreaks.2.1 hbreaks.2.2 hw)⟩
  | case8 fuel raw n c r hquote hdollar hescaped hescape hcrlf ih =>
    obtain ⟨w, rfl, hw⟩ := ih h
    refine ⟨c :: w, rfl, .plain hquote (fun hslash => ?_) hw⟩
    -- a backslash would take along what follows it, at the latest the closing quote
    cases w with
    | nil => exact hescape _ _ hslash rfl
    | cons d w => exact hescape _ _ hslash rfl

/-- A template without expressions. -/
theorem template_eq_append {raw : String} {sound : Bool}
    (h : (template true ('`' :: s)).kind = .template raw true true sound) :
    ∃ w, s = w ++ '`' :: (template true ('`' :: s)).rest ∧ Quotable '`' w := by
  simp only [template, List.drop_succ_cons, List.drop_zero] at h ⊢
  split at h
  · rename_i text m last r htemplate
    obtain rfl : last = true := by
      simp only [TokenKind.template.injEq] at h
      exact h.2.2.1
    exact templateFrom_eq_append htemplate
  · cases h

end Lexer

/-- The literals whose texts are written between quotes and hold no expressions. -/
inductive LiteralKind where
  | string
  | attributeString
  | template
deriving DecidableEq

/-- A literal in front of a text, with the token that is cut off for it. -/
inductive Literal : LiteralKind → List Char → Lexeme → Prop
  | string {q : Char} {t : List Char} : Lexer.IsStringQuote q →
      (Lexer.lexeme (q :: t)).error = none → Literal .string (q :: t) (Lexer.lexeme (q :: t))
  | attributeString {q : Char} {t : List Char} : Lexer.IsStringQuote q →
      (Parser.attributeLexeme (q :: t)).error = none →
      Literal .attributeString (q :: t) (Parser.attributeLexeme (q :: t))
  | template {t : List Char} {raw : String} {sound : Bool} :
      (Lexer.lexeme ('`' :: t)).kind = .template raw true true sound →
      Literal .template ('`' :: t) (Lexer.lexeme ('`' :: t))

/-- **A literal stands between two quotes.** Its text may stand there also for a reader that takes
each backslash for an escape, unless it is the string of an attribute with a backslash in front of
the closing quote. -/
theorem Literal.exists_text {kind : LiteralKind} {t : List Char} {l : Lexeme}
    (hl : Literal kind t l) :
    ∃ q ∈ quotes, ∃ text, t = q :: (text ++ q :: l.rest) ∧
      (kind ≠ .attributeString → escapesWithin text = true) ∧
      (escapesWithin text = true → Quotable q text) := by
  cases hl with
  | @string q t hq herror =>
    have hcut : Lexer.lexeme (q :: t) = Lexer.string q (q :: t) := by
      rcases hq with rfl | rfl <;> rfl
    rw [hcut] at herror ⊢
    obtain ⟨text, htext, hquotable⟩ := Lexer.string_eq_append hq herror
    exact ⟨q, hq.mem_quotes, text, congrArg (q :: ·) htext, fun _ => hquotable.escapesWithin,
      fun _ => hquotable⟩
  | @attributeString q t hq herror =>
    have hcut : Parser.attributeLexeme (q :: t) = Lexer.attributeString q (q :: t) := by
      rcases hq with rfl | rfl <;> rfl
    rw [hcut] at herror ⊢
    obtain ⟨text, htext, hfree⟩ := Lexer.attributeString_eq_append herror
    exact ⟨q, hq.mem_quotes, text, congrArg (q :: ·) htext, fun h => absurd rfl h,
      Quotable.of_escapesWithin hfree⟩
  | @template t raw sound hkind =>
    obtain ⟨text, htext, hquotable⟩ := Lexer.template_eq_append hkind
    exact ⟨'`', by decide, text, congrArg ('`' :: ·) htext, fun _ => hquotable.escapesWithin,
      fun _ => hquotable⟩

end LivePreview.Script

namespace LivePreview

open Script Candidates

/-! ## Class names in literals -/

variable {kind : LiteralKind} {t pre : List Char} {l : Lexeme} {source : String}

/-- **Which literals are found.** A literal may stand anywhere in a source. The scan for its quotes
finds just its text if and only if the quotes of that kind in front of it are paired and its own
closing quote is not taken along by a backslash, which only happens to the string of an attribute.
All words of a literal that is found are candidates. -/
theorem words_of_literal (hsource : source.toList = pre ++ t) (hl : Literal kind t l) :
    ∃ q ∈ quotes, ∃ text, t = q :: (text ++ q :: l.rest) ∧
      ((pre.length, text) ∈ literalsFrom q 0 0 source.toList ↔
        Paired q pre ∧ escapesWithin text = true) ∧
      (kind ≠ .attributeString → escapesWithin text = true) ∧
      (Paired q pre → escapesWithin text = true →
        ∀ w ∈ Text.words (String.ofList text), w ∈ ofSource source) := by
  obtain ⟨q, hq, text, rfl, hescapes, hquotable⟩ := hl.exists_text
  have hback := ne_backslash_of_mem_quotes hq
  refine ⟨q, hq, text, rfl, ⟨fun hfound => ?_, ?_⟩, hescapes, ?_⟩
  · obtain ⟨pre', rest, hsplit, hpre, htext, hlength⟩ := (mem_literalsFrom hback).mp hfound
    have hsame : pre = pre' :=
      List.append_inj_left (hsource.symm.trans hsplit) (by omega)
    exact ⟨hsame ▸ hpre, htext.escapesWithin⟩
  · rintro ⟨hpre, hwithin⟩
    exact (mem_literalsFrom hback).mpr
      ⟨pre, l.rest, hsource, hpre, hquotable hwithin, (Nat.zero_add _).symm⟩
  · intro hpre hwithin w hw
    exact mem_ofSource.mpr ⟨q, hq, pre, text, l.rest, hsource, hpre, hquotable hwithin, hw⟩

/-- An apostrophe between double quotes hides nothing that stands between double quotes. -/
theorem words_of_literal_behind_literal :
    let source := "const note = \"it's\";\nconst box = <p className=\"p-4 flex\" />;"
    let pre := "const note = \"it's\";\nconst box = <p className="
    let t := "\"p-4 flex\" />;".toList
    source.toList = pre.toList ++ t ∧ Literal .attributeString t (Parser.attributeLexeme t) ∧
      Paired '"' pre.toList ∧ "p-4" ∈ ofSource source ∧ "flex" ∈ ofSource source := by
  intro source pre t
  have hsource : source.toList = pre.toList ++ t := by
    simp only [source, pre, t]
    rw [String.toList_ofList, String.toList_ofList, String.toList_ofList]
    rfl
  have hl : Literal .attributeString t (Parser.attributeLexeme t) := .attributeString (.inr rfl) rfl
  have hquoted : Quotable '"' "it's".toList := .of_plain (by simp)
  have hfront : Paired '"' "const note = ".toList := .of_plain (by simp)
  have hback : Paired '"' ";\nconst box = <p className=".toList := .of_plain (by simp)
  have hpre : pre.toList = "const note = ".toList ++
      '"' :: ("it's".toList ++ '"' :: ";\nconst box = <p className=".toList) := by
    simp only [pre]
    rw [String.toList_ofList, String.toList_ofList, String.toList_ofList, String.toList_ofList]
    rfl
  have hpaired : Paired '"' pre.toList := hpre ▸ hfront.append (.quoted hquoted hback)
  obtain ⟨q, -, text, ht, -, -, hwords⟩ := words_of_literal hsource hl
  obtain ⟨rfl, ht⟩ := List.cons.inj ht
  obtain rfl : "p-4 flex".toList = text := (List.append_left_inj _).mp ht
  have hfound := hwords hpaired rfl
  exact ⟨hsource, hl, hpaired, hfound _ (by decide), hfound _ (by decide)⟩

/-- An apostrophe in the text of an element hides the class names of the elements behind it. -/
theorem words_of_literal_behind_apostrophe :
    let table := (ImportTable.empty "https://esm.sh").packageWithSubpaths "react" "19.1.0"
    let source := "const Note = () => <p>Don't</p>;\nconst Box = () => <b className='p-4 flex' />;"
    let pre := "const Note = () => <p>Don't</p>;\nconst Box = () => <b className="
    let t := "'p-4 flex' />;".toList
    let code := "let __loopGuard = 0;\n" ++
      "import \x7b jsx as _jsx \x7d from \"react/jsx-runtime\";\n" ++
      "const Note = () => /* @__PURE__ */ _jsx(\"p\", \x7b children: \"Don't\" \x7d);\n" ++
      "const Box = () => /* @__PURE__ */ _jsx(\"b\", \x7b className: \"p-4 flex\" \x7d);\n"
    (transpile table 100000 source).toOption =
        some ⟨code, [], ["t</p>;", "const", "Box", "=", "()", "=>", "<b", "className="]⟩ ∧
      source.toList = pre.toList ++ t ∧ Literal .attributeString t (Parser.attributeLexeme t) ∧
      (Parser.attributeLexeme t).kind = .string "p-4 flex" "p-4 flex" ∧
      Text.words "p-4 flex" = ["p-4", "flex"] ∧
      "p-4" ∉ ofSource source ∧ "flex" ∉ ofSource source := by
  intro table source pre t code
  have hl : Literal .attributeString t (Parser.attributeLexeme t) := .attributeString (.inl rfl) rfl
  obtain ⟨chars, hchars, hsplit, hdeclared, hlines, hwords⟩ : ∃ chars, source.toList = chars ∧
      chars = pre.toList ++ t ∧ ImportScan.specifiers chars = [] ∧
      (compiledLines table 100000 chars).toOption = some code ∧
      Text.firsts ((literals chars).flatMap fun l => Text.words (String.ofList l)) =
        ["t</p>;", "const", "Box", "=", "()", "=>", "<b", "className="] := by
    refine ⟨_, String.toList_ofList, ?_, by decide +kernel, by decide +kernel, by decide +kernel⟩
    simp only [pre, t]
    rw [String.toList_ofList, String.toList_ofList]
    rfl
  have hcandidates : ofSource source =
      ["t</p>;", "const", "Box", "=", "()", "=>", "<b", "className="] := by
    rw [ofSource, hchars, hwords]
  have hend : code.toList.getLast? = some '\n' := getLast?_toList_append rfl
  have htranspile :=
    transpile_of_lines hchars hdeclared rfl hlines (by rw [hend]; decide) hcandidates
  rw [htranspile, hcandidates]
  exact ⟨rfl, hchars.trans hsplit, hl, rfl, by decide, by decide, by decide⟩

end LivePreview
