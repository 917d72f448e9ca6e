import LivePreview.Proofs.Brackets
import LivePreview.Proofs.RawText
import LivePreview.Proofs.WireFormat
/-!
# The page of a realm

The page is a fixed text with four holes, and filling it is four replacements in the whole text, one
after the other. A replacement does its work on each part of the page by itself (`replace_page`):
the fixed pieces between the holes have nothing in them that looks like a hole, and they begin and
end with characters that no name of a hole has. So a page always has the fixed pieces in their places
(`text_eq`), but what is filled in is searched for the holes that are filled later: the import map for
the hole of the styles, and both of them for the hole of the script. If no key, URL or style holds
such a name, the page embeds its inputs and nothing else (`page_of_inputs`).
-/
namespace LivePreview.Realm.Document

open Text

/-! ## The page between its holes -/

/-- Some lines, each with its end. -/
def lines (ls : List String) : String := String.join (ls.map (· ++ "\n"))

/-- The fixed pieces of the page, in order. -/
def front : String := lines (template.take 1) ++ "<html lang=\"en\""
def beforeImports : String := ">\n" ++ lines ((template.drop 2).take 4)
def beforeStyles : String := "\n" ++ lines ((template.drop 7).take 1) ++ "<style id=\"__theme\">"
def beforeScript : String := "</style>\n" ++ lines ((template.drop 9).take 11)
def back : String := "\n" ++ lines (template.drop 21)

/-- The page around an attribute, an import map, a style sheet and a script. -/
def page (attr imports styles script : String) : String :=
  front ++ attr ++ beforeImports ++ imports ++ beforeStyles ++ styles ++ beforeScript ++ script ++
    back

theorem lines_append (a b : List String) : lines (a ++ b) = lines a ++ lines b := by
  simp [lines]

theorem lines_cons (l : String) (ls : List String) : lines (l :: ls) = l ++ "\n" ++ lines ls := by
  simp [lines]

/-- The template is the page with the names of its holes. -/
theorem lines_template : lines template =
    page "__HTML_CLASS__" "__IMPORT_MAP__" "__THEME_CSS__" "__REALM_SCRIPT__" := by
  have hsplit : template = template.take 1 ++ "<html lang=\"en\"__HTML_CLASS__>" ::
      ((template.drop 2).take 4 ++ "__IMPORT_MAP__" ::
        ((template.drop 7).take 1 ++ "<style id=\"__theme\">__THEME_CSS__</style>" ::
          ((template.drop 9).take 11 ++ "__REALM_SCRIPT__" :: template.drop 21))) := rfl
  have hattr : "<html lang=\"en\"__HTML_CLASS__>" =
      "<html lang=\"en\"" ++ "__HTML_CLASS__" ++ ">" := rfl
  have hstyles : "<style id=\"__theme\">__THEME_CSS__</style>" =
      "<style id=\"__theme\">" ++ "__THEME_CSS__" ++ "</style>" := rfl
  have hopen : ">\n" = ">" ++ "\n" := rfl
  have hclose : "</style>\n" = "</style>" ++ "\n" := rfl
  rw [hsplit]
  simp only [lines_append, lines_cons, hattr, hstyles, hopen, hclose, page, front, beforeImports,
    beforeStyles, beforeScript, back, String.append_assoc]

/-! ## What looks like a hole -/

/-- The characters of which the names of holes consist. -/
def isMark (c : Char) : Bool := c == '_' || ('A' ≤ c && c ≤ 'Z')

/-- Whether a text has none of them. -/
def unmarked (s : List Char) : Bool := s.all (!isMark ·)

theorem unmarked_iff {s : List Char} : unmarked s = true ↔ ∀ c ∈ s, isMark c = false := by
  simp [unmarked]

/-- Whether two underscores stand in front of a capital letter, as in the name of each hole. -/
def looksHollow : List Char → Bool
  | '_' :: '_' :: c :: r => c.isUpper || looksHollow ('_' :: c :: r)
  | _ :: r => looksHollow r
  | [] => false

/-- Whether a text may stand between holes. -/
def isPiece (s : List Char) : Bool :=
  s.head?.any (!isMark ·) && s.getLast?.any (!isMark ·) && !looksHollow s

/-- What the names of holes have in common. -/
structure IsHole (h : List Char) : Prop where
  marks : h.all isMark = true
  opens : ∃ c r, h = '_' :: '_' :: c :: r ∧ c.isUpper = true

theorem isHole_styles : IsHole "__THEME_CSS__".toList :=
  ⟨by decide, 'T', "HEME_CSS__".toList, by decide⟩

theorem isHole_script : IsHole "__REALM_SCRIPT__".toList :=
  ⟨by decide, 'R', "EALM_SCRIPT__".toList, by decide⟩

theorem isHole_imports : IsHole "__IMPORT_MAP__".toList :=
  ⟨by decide, 'I', "MPORT_MAP__".toList, by decide⟩

theorem isHole_attr : IsHole "__HTML_CLASS__".toList :=
  ⟨by decide, 'H', "TML_CLASS__".toList, by decide⟩

/-- The pieces of the page, over their bytes: they are ASCII. -/
theorem bytes_pieces : ∀ p ∈ [front, beforeImports, beforeStyles, beforeScript, back],
    ((Style.bytes p).all (· < 128) &&
      isPiece ((Style.bytes p).map fun b => Char.ofNat b.toNat)) = true := by
  decide +kernel

theorem isPiece_of_mem {p : String}
    (hp : p ∈ [front, beforeImports, beforeStyles, beforeScript, back]) :
    isPiece p.toList = true := by
  obtain ⟨hascii, hpiece⟩ := Bool.and_eq_true_iff.mp (bytes_pieces p hp)
  rw [Style.toList_eq_map_bytes hascii]
  exact hpiece

section Holes

variable {h new a b p s : List Char}

theorem IsHole.ne_nil (hh : IsHole h) : h ≠ [] := by
  obtain ⟨c, r, rfl, -⟩ := hh.opens
  exact List.cons_ne_nil _ _

theorem IsHole.not_mem (hh : IsHole h) {c : Char} (hc : isMark c = false) : c ∉ h := fun hmem =>
  Bool.false_ne_true (hc.symm.trans (List.all_eq_true.mp hh.marks c hmem))

theorem looksHollow_cons {c : Char} (hs : looksHollow s = true) : looksHollow (c :: s) = true := by
  rw [looksHollow.eq_def]
  split
  · rename_i d r heq
    obtain ⟨rfl, rfl⟩ := List.cons.inj heq
    rw [hs, Bool.or_true]
  · rename_i d r _ heq
    obtain ⟨rfl, rfl⟩ := List.cons.inj heq
    exact hs
  · rename_i heq
    exact nomatch heq

/-- A text that does not look hollow has no hole. -/
theorem IsHole.looksHollow (hh : IsHole h) (hs : h <:+: s) :
    looksHollow s = true := by
  induction s with
  | nil => exact absurd (List.infix_nil.mp hs) hh.ne_nil
  | cons c s ih =>
    rcases List.infix_cons_iff.mp hs with hfront | hrest
    · obtain ⟨d, r, rfl, hd⟩ := hh.opens
      obtain ⟨t, ht⟩ := hfront
      rw [← ht]
      simp [Document.looksHollow, hd]
    · exact looksHollow_cons (ih hrest)

theorem IsHole.not_infix_piece (hh : IsHole h) (hp : isPiece p = true) : ¬ h <:+: p := by
  intro hin
  simp only [isPiece, hh.looksHollow hin, Bool.not_true, Bool.and_false] at hp
  exact Bool.false_ne_true hp

/-- A replacement does its work on both sides of a piece. -/
theorem IsHole.replaceChars_around (hh : IsHole h) (hp : isPiece p = true) :
    replaceChars h new (a ++ p ++ b) =
      replaceChars h new a ++ p ++ replaceChars h new b := by
  have hself : replaceChars h new p = p := replaceChars_eq_self (hh.not_infix_piece hp)
  simp only [isPiece, Bool.and_eq_true, Option.any_eq_true, Bool.not_eq_true'] at hp
  obtain ⟨⟨⟨c, hhead, hc⟩, d, hlast, hd⟩, -⟩ := hp
  -- the first character of the piece keeps what is in front of it apart, the last what is behind
  have hfront : replaceChars h new (a ++ p) = replaceChars h new a ++ p := by
    obtain ⟨r, rfl⟩ := List.head?_eq_some_iff.mp hhead
    have hcons : replaceChars h new (c :: r) = c :: replaceChars h new r :=
      replaceChars_append_cons (a := []) hh.ne_nil (hh.not_mem hc)
    rw [replaceChars_append_cons hh.ne_nil (hh.not_mem hc)]
    exact congrArg (replaceChars h new a ++ ·) (hcons.symm.trans hself)
  obtain ⟨q, rfl⟩ := List.getLast?_eq_some_iff.mp hlast
  have hback : replaceChars h new ((a ++ q) ++ [d]) = replaceChars h new (a ++ q) ++ [d] :=
    replaceChars_append_cons hh.ne_nil (hh.not_mem hd)
  calc replaceChars h new (a ++ (q ++ [d]) ++ b)
      = replaceChars h new ((a ++ q) ++ d :: b) := by simp
    _ = replaceChars h new (a ++ q) ++ d :: replaceChars h new b :=
        replaceChars_append_cons hh.ne_nil (hh.not_mem hd)
    _ = replaceChars h new (a ++ (q ++ [d])) ++ replaceChars h new b := by
        rw [← List.append_assoc a q [d], hback, List.append_assoc, List.singleton_append]
    _ = replaceChars h new a ++ (q ++ [d]) ++ replaceChars h new b := by rw [hfront]

/-! ## Holes in text that is filled in -/

theorem IsHole.infix_of_append_cons (hh : IsHole h) {c : Char} (hc : isMark c = false)
    (hin : h <:+: a ++ c :: b) : h <:+: a ∨ h <:+: b :=
  (infix_append_cons_iff hh.ne_nil (hh.not_mem hc)).mp hin

theorem IsHole.infix_of_cons (hh : IsHole h) {c : Char} (hc : isMark c = false)
    (hin : h <:+: c :: s) : h <:+: s :=
  (hh.infix_of_append_cons (a := []) hc hin).resolve_left fun hnil =>
    hh.ne_nil (List.infix_nil.mp hnil)

theorem IsHole.infix_of_append_left (hh : IsHole h) (ha : unmarked a = true)
    (hin : h <:+: a ++ b) : h <:+: b := by
  rw [unmarked_iff] at ha
  induction a with
  | nil => exact hin
  | cons c a ih =>
    exact ih (fun d hd => ha d (List.mem_cons_of_mem c hd))
      (hh.infix_of_cons (ha c List.mem_cons_self) hin)

theorem IsHole.not_infix_unmarked (hh : IsHole h) (ha : unmarked a = true) : ¬ h <:+: a :=
  fun hin => hh.ne_nil
    (List.infix_nil.mp (hh.infix_of_append_left ha (by simpa using hin : h <:+: a ++ [])))

theorem IsHole.infix_of_append_right (hh : IsHole h) (hb : unmarked b = true)
    (hin : h <:+: a ++ b) : h <:+: a := by
  cases b with
  | nil => simpa using hin
  | cons c b =>
    simp only [unmarked, List.all_cons, Bool.and_eq_true, Bool.not_eq_true'] at hb
    exact (hh.infix_of_append_cons hb.1 hin).resolve_right (hh.not_infix_unmarked hb.2)

/-- A text in which some characters are changed to others that are no marks. -/
inductive Veils : List Char → List Char → Prop where
  | nil : Veils [] []
  | keep {c s t} (h : Veils s t) : Veils (c :: s) (c :: t)
  | change {c block s t} (hne : block ≠ []) (hblock : unmarked block = true) (h : Veils s t) :
      Veils (c :: s) (block ++ t)

theorem Veils.prefix_left {t : List Char} (hv : Veils s t) (hp : p.all isMark = true)
    (hpre : p <+: t) : p <+: s := by
  induction hv generalizing p with
  | nil => exact hpre
  | keep _ ih =>
    cases p with
    | nil => exact List.nil_prefix
    | cons d p =>
      obtain ⟨rfl, hrest⟩ := List.cons_prefix_cons.mp hpre
      rw [List.all_cons, Bool.and_eq_true] at hp
      exact List.cons_prefix_cons.mpr ⟨rfl, ih hp.2 hrest⟩
  | @change c block s t hne hblock _ _ =>
    cases p with
    | nil => exact List.nil_prefix
    | cons d p =>
      obtain ⟨e, block, rfl⟩ := List.exists_cons_of_ne_nil hne
      obtain ⟨rfl, -⟩ := List.cons_prefix_cons.mp hpre
      rw [List.all_cons, Bool.and_eq_true] at hp
      exact absurd hp.1 (by simp [unmarked_iff.mp hblock d List.mem_cons_self])

/-- Such changes make no hole. -/
theorem Veils.infix_left {t : List Char} (hv : Veils s t) (hh : IsHole h) (hin : h <:+: t) :
    h <:+: s := by
  induction hv with
  | nil => exact hin
  | keep hv ih =>
    rcases List.infix_cons_iff.mp hin with hpre | hrest
    · exact (hv.keep.prefix_left hh.marks hpre).isInfix
    · exact List.infix_cons (ih hrest)
  | change _ hblock _ ih => exact List.infix_cons (ih (hh.infix_of_append_left hblock hin))

theorem veils_slashed (s : List Char) : Veils s (slashed s) := by
  induction s using slashed.induct with
  | case1 r ih =>
    rw [slashed]
    have hslash : Veils ('/' :: r) (['\\', '/'] ++ slashed r) := .change (by simp) (by decide) ih
    exact .keep hslash
  | case2 c r hne ih =>
    rw [slashed.eq_2 _ _ hne]
    exact .keep ih
  | case3 => exact .nil

theorem unmarked_hexPair : ∀ n < 32, unmarked (Json.hexPair n) = true := by
  decide

theorem veils_escapeChar (s : List Char) : Veils s (s.flatMap Json.escapeChar) := by
  induction s with
  | nil => exact .nil
  | cons c s ih =>
    rw [List.flatMap_cons]
    unfold Json.escapeChar
    split
    case h_6 =>
      split_ifs with h8 h12 h32
      · exact .change (by simp) (by decide) ih
      · exact .change (by simp) (by decide) ih
      · have hdigits := unmarked_hexPair c.toNat h32
        refine .change (by simp) ?_ ih
        rw [unmarked] at hdigits ⊢
        rw [List.all_append, hdigits]
        rfl
      · exact .keep ih
    all_goals exact .change (by simp) (by decide) ih

/-! ### JSON texts -/

/-- A string stands in a part of a document, as a value or as a key. -/
inductive Speaks (k : String) : Json.Part → Prop where
  | str : Speaks k (.value (.str k))
  | arr {js} (h : Speaks k (.elements js)) : Speaks k (.value (.arr js))
  | obj {ms} (h : Speaks k (.members ms)) : Speaks k (.value (.obj ms))
  | element {j js} (h : Speaks k (.value j)) : Speaks k (.elements (j :: js))
  | elements {j js} (h : Speaks k (.elements js)) : Speaks k (.elements (j :: js))
  | key {j ms} : Speaks k (.members ((k, j) :: ms))
  | member {l j ms} (h : Speaks k (.value j)) : Speaks k (.members ((l, j) :: ms))
  | members {m ms} (h : Speaks k (.members ms)) : Speaks k (.members (m :: ms))

theorem unmarked_gap {g : List Char} (hg : Json.Gap g) : unmarked g = true := by
  rw [unmarked_iff]
  intro c hc
  have hgap := hg c hc
  simp only [Json.isGap, Bool.or_eq_true, beq_iff_eq] at hgap
  rcases hgap with ((rfl | rfl) | rfl) | rfl <;> rfl

theorem unmarked_digits (n : Nat) : unmarked (Decimal.digitsOf n) = true := by
  rw [unmarked_iff]
  intro c hc
  have hdigit := Json.isAsciiDigit_of_mem_digitsOf hc
  simp only [Text.isAsciiDigit, Bool.and_eq_true, decide_eq_true_eq] at hdigit
  have hcapital : ¬ 'A' ≤ c := fun h => absurd (Char.le_trans h hdigit.2) (by decide)
  have hunderscore : c ≠ '_' := fun h => absurd (h ▸ hdigit.2) (by decide)
  simp [isMark, hcapital, hunderscore]

theorem IsHole.infix_of_quote (hh : IsHole h) {k : String} (hin : h <:+: (Json.quote k).toList) :
    h <:+: k.toList := by
  rw [Json.quote_toList] at hin
  have hinner := hh.infix_of_append_right (by decide) (hh.infix_of_cons (by decide) hin)
  exact (veils_escapeChar k.toList).infix_left hh hinner

/-- A JSON text has a hole only where one of its strings has it. -/
theorem IsHole.exists_speaks (hh : IsHole h) {depth : Nat} {part : Json.Part} {t : List Char}
    (hs : Json.Spells depth part t) (hin : h <:+: t) :
    ∃ k, Speaks k part ∧ h <:+: k.toList := by
  induction hs with
  | nullWord | trueWord | falseWord | emptyArr | emptyObj =>
    exact absurd hin (hh.not_infix_unmarked (by decide))
  | nat => exact absurd hin (hh.not_infix_unmarked (unmarked_digits _))
  | neg => exact absurd (hh.infix_of_cons (by decide) hin) (hh.not_infix_unmarked (unmarked_digits _))
  | str => exact ⟨_, .str, hh.infix_of_quote hin⟩
  | arr _ ih =>
    obtain ⟨k, hk, hin⟩ :=
      ih (hh.infix_of_append_right (by decide) (hh.infix_of_cons (by decide) hin))
    exact ⟨k, .arr hk, hin⟩
  | obj _ ih =>
    obtain ⟨k, hk, hin⟩ :=
      ih (hh.infix_of_append_right (by decide) (hh.infix_of_cons (by decide) hin))
    exact ⟨k, .obj hk, hin⟩
  | lastElement hg _ hg' ih =>
    obtain ⟨k, hk, hin⟩ :=
      ih (hh.infix_of_append_right (unmarked_gap hg') (hh.infix_of_append_left (unmarked_gap hg) hin))
    exact ⟨k, .element hk, hin⟩
  | element hg _ _ ih ihu =>
    rcases hh.infix_of_append_cons (by decide) (hh.infix_of_append_left (unmarked_gap hg) hin) with
      hin | hin
    · obtain ⟨k, hk, hin⟩ := ih hin
      exact ⟨k, .element hk, hin⟩
    · obtain ⟨k, hk, hin⟩ := ihu hin
      exact ⟨k, .elements hk, hin⟩
  | lastMember hg hg₁ _ hg' ih =>
    rcases hh.infix_of_append_cons (by decide) (hh.infix_of_append_left (unmarked_gap hg) hin) with
      hin | hin
    · exact ⟨_, .key, hh.infix_of_quote hin⟩
    · obtain ⟨k, hk, hin⟩ := ih (hh.infix_of_append_right (unmarked_gap hg')
        (hh.infix_of_append_left (unmarked_gap hg₁) hin))
      exact ⟨k, .member hk, hin⟩
  | member hg hg₁ _ _ ih ihu =>
    rcases hh.infix_of_append_cons (by decide) (hh.infix_of_append_left (unmarked_gap hg) hin) with
      hin | hin
    · exact ⟨_, .key, hh.infix_of_quote hin⟩
    · rcases hh.infix_of_append_cons (by decide) (hh.infix_of_append_left (unmarked_gap hg₁) hin) with
        hin | hin
      · obtain ⟨k, hk, hin⟩ := ih hin
        exact ⟨k, .member hk, hin⟩
      · obtain ⟨k, hk, hin⟩ := ihu hin
        exact ⟨k, .members hk, hin⟩

end Holes

/-! ## The import map -/

theorem exists_entry_of_speaks {k : String} {entries : List (String × String)}
    (h : Speaks k (.members (entries.map fun e => (e.1, Json.str e.2)))) :
    ∃ e ∈ entries, k = e.1 ∨ k = e.2 := by
  induction entries with
  | nil => exact nomatch h
  | cons e entries ih =>
    rw [List.map_cons] at h
    cases h with
    | key => exact ⟨e, List.mem_cons_self, .inl rfl⟩
    | member h =>
      cases h
      exact ⟨e, List.mem_cons_self, .inr rfl⟩
    | members h =>
      obtain ⟨f, hf, hk⟩ := ih h
      exact ⟨f, List.mem_cons_of_mem e hf, hk⟩

/-- The strings of an import map are its keys and URLs, and one name of a field. -/
theorem entry_of_speaks {k : String} {m : ImportMap} (h : Speaks k (.value m.toJson)) :
    k = "imports" ∨ ∃ e ∈ m.entries, k = e.1 ∨ k = e.2 := by
  cases h with
  | obj h => cases h with
    | key => exact .inl rfl
    | member h => cases h with
      | obj h => exact .inr (exists_entry_of_speaks h)
    | members h => exact nomatch h

end LivePreview.Realm.Document

namespace LivePreview.ImportTable

/-- No key and no URL of a table has a piece of text. -/
def Avoids (table : ImportTable) (piece : String) : Prop :=
  ∀ e ∈ table.entries, Text.occurs piece e.1 = false ∧ Text.occurs piece e.2 = false

end LivePreview.ImportTable

namespace LivePreview.Realm.Document

open Text

theorem spells_importMapText (table : ImportTable) :
    Json.Spells Json.depthLimit (.value table.importMap.toJson) table.importMapText.toList :=
  (ImportMap.fits_toJson table.importMap).spells_pretty 0

/-- Escaping makes no hole. -/
theorem occurs_hole_escapeRaw {hole text : String} (hh : IsHole hole.toList)
    (h : ¬ hole.toList <:+: text.toList) : occurs hole (escapeRaw text) = false := by
  rw [Bool.eq_false_iff, Ne, occurs_eq_true, escapeRaw_eq, String.toList_ofList]
  exact fun hin => h ((veils_slashed _).infix_left hh hin)

/-- What stands in no key and no URL stands nowhere in the import map. -/
theorem not_infix_importMapText {table : ImportTable} {hole : String} (hh : IsHole hole.toList)
    (h : table.Avoids hole) : ¬ hole.toList <:+: table.importMapText.toList := by
  intro hin
  obtain ⟨k, hk, hin⟩ := hh.exists_speaks (spells_importMapText table) hin
  rcases entry_of_speaks hk with rfl | ⟨e, he, rfl | rfl⟩
  · exact hh.not_infix_unmarked (by decide) hin
  · exact absurd (occurs_eq_true.mpr hin) (by simp [(h e he).1])
  · exact absurd (occurs_eq_true.mpr hin) (by simp [(h e he).2])

/-! ## The page -/

section Page

variable {hole new a b c d : String}

theorem replace_eq_self (h : occurs hole a = false) : replace hole new a = a := by
  have hin : ¬ hole.toList <:+: a.toList := fun hin =>
    Bool.false_ne_true (h.symm.trans (occurs_eq_true.mpr hin))
  rw [replace, replaceChars_eq_self hin, String.ofList_toList]

theorem replace_around (hh : IsHole hole.toList) {p : String}
    (hp : p ∈ [front, beforeImports, beforeStyles, beforeScript, back]) :
    replace hole new (a ++ p ++ b) = replace hole new a ++ p ++ replace hole new b := by
  have hchars : replaceChars hole.toList new.toList (a.toList ++ p.toList ++ b.toList) =
      replaceChars hole.toList new.toList a.toList ++ p.toList ++
        replaceChars hole.toList new.toList b.toList :=
    hh.replaceChars_around (isPiece_of_mem hp)
  apply String.toList_inj.mp
  simpa [replace] using hchars

/-- A replacement does its work on each part of the page by itself. -/
theorem replace_page (hh : IsHole hole.toList) : replace hole new (page a b c d) =
    page (replace hole new a) (replace hole new b) (replace hole new c) (replace hole new d) := by
  have hpage : ∀ a b c d, page a b c d = "" ++ front ++ (a ++ beforeImports ++
      (b ++ beforeStyles ++ (c ++ beforeScript ++ (d ++ back ++ "")))) := fun a b c d => by
    simp [page, String.append_assoc]
  have hnil : replace hole new "" = "" := rfl
  rw [hpage, hpage, replace_around hh (by simp), replace_around hh (by simp),
    replace_around hh (by simp), replace_around hh (by simp), replace_around hh (by simp), hnil]

/-- The texts of the import map and of the styles in the page. -/
def embeddedImports (table : ImportTable) (styles : String) : String :=
  replace "__REALM_SCRIPT__" script
    (replace "__THEME_CSS__" (escapeRaw styles) (escapeRaw table.importMapText))

def embeddedStyles (styles : String) : String :=
  replace "__REALM_SCRIPT__" script (escapeRaw styles)

theorem occurs_hole_attribute (scheme : ColorScheme) :
    occurs "__IMPORT_MAP__" (schemeAttribute scheme) = false ∧
      occurs "__THEME_CSS__" (schemeAttribute scheme) = false ∧
      occurs "__REALM_SCRIPT__" (schemeAttribute scheme) = false := by
  cases scheme <;> decide

/-- What a page is, whatever its inputs hold. -/
theorem text_eq (table : ImportTable) (styles : String) (scheme : ColorScheme) :
    text table styles scheme =
      page (schemeAttribute scheme) (embeddedImports table styles) (embeddedStyles styles)
        script := by
  have hself : ∀ {hole new : String}, IsHole hole.toList → replace hole new hole = new :=
    fun hh => by rw [replace, replaceChars_self hh.ne_nil, String.ofList_toList]
  obtain ⟨himports, hstyles, hscript⟩ := occurs_hole_attribute scheme
  -- no name of a hole has another one in it, so the holes that are filled later stay
  have hattr : ∀ new, replace "__HTML_CLASS__" new (lines template) =
      page new "__IMPORT_MAP__" "__THEME_CSS__" "__REALM_SCRIPT__" := fun new => by
    rw [lines_template, replace_page isHole_attr, hself isHole_attr,
      replace_eq_self (a := "__IMPORT_MAP__") (by decide),
      replace_eq_self (a := "__THEME_CSS__") (by decide),
      replace_eq_self (a := "__REALM_SCRIPT__") (by decide)]
  have hmap : ∀ new, replace "__IMPORT_MAP__" new
      (page (schemeAttribute scheme) "__IMPORT_MAP__" "__THEME_CSS__" "__REALM_SCRIPT__") =
        page (schemeAttribute scheme) new "__THEME_CSS__" "__REALM_SCRIPT__" := fun new => by
    rw [replace_page isHole_imports, hself isHole_imports, replace_eq_self himports,
      replace_eq_self (a := "__THEME_CSS__") (by decide),
      replace_eq_self (a := "__REALM_SCRIPT__") (by decide)]
  have hsheet : ∀ new imports, replace "__THEME_CSS__" new
      (page (schemeAttribute scheme) imports "__THEME_CSS__" "__REALM_SCRIPT__") =
        page (schemeAttribute scheme) (replace "__THEME_CSS__" new imports) new
          "__REALM_SCRIPT__" := fun new imports => by
    rw [replace_page isHole_styles, hself isHole_styles, replace_eq_self hstyles,
      replace_eq_self (a := "__REALM_SCRIPT__") (by decide)]
  calc text table styles scheme
      = replace "__REALM_SCRIPT__" script (replace "__THEME_CSS__" (escapeRaw styles)
          (replace "__IMPORT_MAP__" (escapeRaw table.importMapText)
            (replace "__HTML_CLASS__" (schemeAttribute scheme) (lines template)))) := by
        simp only [text, parts, List.foldl_cons, List.foldl_nil, lines]
    _ = _ := by
        rw [hattr, hmap, hsheet, replace_page isHole_script, hself isHole_script,
          replace_eq_self hscript, embeddedImports, embeddedStyles]

theorem embeddedStyles_eq {styles : String} (h : occurs "__REALM_SCRIPT__" styles = false) :
    embeddedStyles styles = escapeRaw styles :=
  replace_eq_self (occurs_hole_escapeRaw isHole_script fun hin =>
    absurd (occurs_eq_true.mpr hin) (by simp [h]))

theorem embeddedImports_eq {table : ImportTable} (hstyles : table.Avoids "__THEME_CSS__")
    (hscript : table.Avoids "__REALM_SCRIPT__") (styles : String) :
    embeddedImports table styles = escapeRaw table.importMapText := by
  rw [embeddedImports,
    replace_eq_self (occurs_hole_escapeRaw isHole_styles
      (not_infix_importMapText isHole_styles hstyles)),
    replace_eq_self (occurs_hole_escapeRaw isHole_script
      (not_infix_importMapText isHole_script hscript))]

/-- **A page embeds its inputs.** The fixed pieces, the attribute and the script stand in their
places whatever the table and the styles hold. The import map is embedded without any `</`, as a
document that gives the map, and so are the styles without any `</`; only the names of the two holes
that are filled later have further text put in their place. -/
theorem page_of_inputs (table : ImportTable) (styles : String) (scheme : ColorScheme)
    (hordered : table.importMap.Ordered) :
    lines template = page "__HTML_CLASS__" "__IMPORT_MAP__" "__THEME_CSS__" "__REALM_SCRIPT__" ∧
      text table styles scheme =
        page (schemeAttribute scheme) (embeddedImports table styles) (embeddedStyles styles)
          script ∧
      (table.Avoids "__THEME_CSS__" → table.Avoids "__REALM_SCRIPT__" →
        embeddedImports table styles = escapeRaw table.importMapText) ∧
      (occurs "__REALM_SCRIPT__" styles = false → embeddedStyles styles = escapeRaw styles) ∧
      occurs "</" (escapeRaw table.importMapText) = false ∧
      Json.decode? ImportMap.ofJson? (escapeRaw table.importMapText) = some table.importMap ∧
      occurs "</" (escapeRaw styles) = false := by
  have hread : Json.decode? ImportMap.ofJson? (escapeRaw table.importMapText) =
      some table.importMap := by
    rw [Json.decode?, Json.readDocument?_escapeRaw (spells_importMapText table), Option.bind_some,
      ImportMap.ofJson?_toJson hordered]
  exact ⟨lines_template, text_eq table styles scheme,
    fun hstyles hscript => embeddedImports_eq hstyles hscript styles, embeddedStyles_eq,
    occurs_escapeRaw _, hread, occurs_escapeRaw styles⟩

/-- A table whose keys and URLs hold tags and names of holes that are filled earlier. -/
def taggedTable : ImportTable :=
  ((ImportTable.empty "https://cdn").localModule "</a" "<//b__IMPORT_MAP__").localModule
    "</script>" "__HTML_CLASS__</style>"

theorem page_of_tagged_inputs :
    taggedTable.importMap.Ordered ∧
      text taggedTable "</style>__THEME_CSS__" .dark =
        page " class=\"dark\"" (escapeRaw taggedTable.importMapText)
          (escapeRaw "</style>__THEME_CSS__") script ∧
      Json.decode? ImportMap.ofJson? (escapeRaw taggedTable.importMapText) =
        some taggedTable.importMap := by
  have hordered : taggedTable.importMap.Ordered := by
    simp only [ImportMap.Ordered]
    decide
  obtain ⟨-, htext, himports, hstyles, -, hread, -⟩ :=
    page_of_inputs taggedTable "</style>__THEME_CSS__" .dark hordered
  refine ⟨hordered, ?_, hread⟩
  rw [htext, himports (by unfold ImportTable.Avoids; decide) (by unfold ImportTable.Avoids; decide),
    hstyles (by decide)]
  rfl

/-- Styles that hold the name of the hole of the script have the script put into them. -/
theorem script_in_styles :
    text (.empty "https://cdn") "__REALM_SCRIPT__" .light ≠
      page "" (escapeRaw (ImportTable.empty "https://cdn").importMapText)
        (escapeRaw "__REALM_SCRIPT__") script := by
  have himports : embeddedImports (.empty "https://cdn") "__REALM_SCRIPT__" =
      escapeRaw (ImportTable.empty "https://cdn").importMapText :=
    embeddedImports_eq (fun _ he => absurd he List.not_mem_nil)
      (fun _ he => absurd he List.not_mem_nil) _
  have hplain : escapeRaw "__REALM_SCRIPT__" = "__REALM_SCRIPT__" := by decide
  have hstyles : embeddedStyles "__REALM_SCRIPT__" = script := by
    rw [embeddedStyles, hplain, replace, replaceChars_self isHole_script.ne_nil,
      String.ofList_toList]
  have hlong : "import React from \"react\";".length ≤ script.length := by
    have hfirst : script = "import React from \"react\";" ++ "\n" ++
        joinWith "\n" (scriptLines.drop 1) := rfl
    rw [hfirst, String.length_append, String.length_append]
    omega
  intro heq
  have hattr : schemeAttribute .light = "" := rfl
  rw [text_eq, himports, hstyles, hplain, hattr] at heq
  have hlength := congrArg String.length heq
  simp only [page, String.length_append] at hlength
  have hshort : "__REALM_SCRIPT__".length < "import React from \"react\";".length := by decide
  omega

end Page

end LivePreview.Realm.Document
