import LivePreview.Proofs.Members
import LivePreview.Proofs.SnippetHistory
import LivePreview.Registry.Item
import Mathlib.Logic.Basic
/-!
# What opening an item yields

The files and the theme of a document are both optional and are dropped if they cannot be read.
Which of them are left decides on the outcome, and the limit applies to what is made of them.
Whatever is opened can be stored as a snippet (`prepare_outcomes`).
-/
namespace LivePreview.Registry

/-! ## Choosing a file -/

namespace File

variable {files : List File} {f : File}

theorem chooses_better : Chooses score better where
  first _ := rfl
  next b f := by
    by_cases h : f.score ≤ b.score
    · exact .inl ⟨if_pos h, h⟩
    · exact .inr ⟨if_neg h, Int.le_of_not_le h⟩

theorem select?_eq_none : select? files = none ↔ ∀ f ∈ files, f.isPlayable = false := by
  rw [select?, chooses_better.foldl_eq_none]
  simp

/-- The file that is chosen can be shown. -/
theorem isPlayable_of_select? (h : select? files = some f) : f ∈ files ∧ f.isPlayable = true :=
  List.mem_filter.mp (chooses_better.of_foldl h).1

theorem content_of_isPlayable (h : f.isPlayable = true) : f.content ≠ none := by
  intro hnone
  simp [isPlayable, hnone] at h

end File

namespace Item

/-! ## What a document holds -/

/-- The object that a document is. -/
def object? (text : String) : Option Json := (Json.parse? text).filter (·.obj?.isSome)

/-- The files of a document, if all of them can be read. -/
def validFiles? (document : Json) : Option (List File) :=
  (document.get? "files").bind (Json.list? File.ofJson?)

/-- The theme of a document, if it can be read and has something for one of the schemes. -/
def usableTheme? (document : Json) : Option ThemeVariables :=
  ((document.get? "cssVars").bind ThemeVariables.ofJson?).filter (·.isUsable)

/-- The content of the chosen file, with the imports that the preview has. -/
def codeOf? (document : Json) : Option String :=
  (((validFiles? document).bind File.select?).bind (·.content)).map File.redirectImports

/-- The stylesheet of the theme. -/
def globalCssOf? (document : Json) : Option String :=
  (usableTheme? document).map (·.css (readBaseRules document))

/-- The item that a document describes. -/
def described (document : Json) : Item :=
  ⟨validFiles? document, usableTheme? document, readBaseRules document⟩

/-- There are neither files nor a theme. -/
def Empty (document : Json) : Prop :=
  validFiles? document = none ∧ usableTheme? document = none

/-- There are files of which none can be shown, and no theme. -/
def Unusable (document : Json) : Prop :=
  usableTheme? document = none ∧
    ∃ files, validFiles? document = some files ∧ ∀ f ∈ files, f.isPlayable = false

/-- Code or a stylesheet of a document, with what messages call it. -/
def IsPart (document : Json) (what part : String) : Prop :=
  what = "Selected registry file" ∧ codeOf? document = some part ∨
    what = "Generated theme CSS" ∧ globalCssOf? document = some part

variable {text part : String} {limit : Nat} {document : Json} {files : List File} {o : Opened}

theorem codeOf?_eq_none (hfiles : validFiles? document = some files) :
    codeOf? document = none ↔ ∀ f ∈ files, f.isPlayable = false := by
  rw [← File.select?_eq_none, codeOf?, hfiles, Option.map_eq_none_iff]
  show (File.select? files).bind _ = none ↔ _
  constructor
  · intro h
    cases hselect : File.select? files with
    | none => rfl
    | some f =>
      rw [hselect] at h
      exact absurd h (File.content_of_isPlayable (File.isPlayable_of_select? hselect).2)
  · intro h
    rw [h]
    rfl

theorem globalCssOf?_eq_none : globalCssOf? document = none ↔ usableTheme? document = none :=
  Option.map_eq_none_iff

/-- A document without a part is of no use. -/
theorem no_part_iff : codeOf? document = none ∧ globalCssOf? document = none ↔
    Unusable document ∨ Empty document := by
  rw [globalCssOf?_eq_none]
  cases hfiles : validFiles? document with
  | none => simp [Unusable, Empty, codeOf?, hfiles]
  | some files =>
    rw [codeOf?_eq_none hfiles]
    simp [Unusable, Empty, hfiles, and_comm]

theorem IsPart.not_useless {what : String} (h : IsPart document what part) :
    ¬ (Unusable document ∨ Empty document) := by
  rw [← no_part_iff]
  rintro ⟨hcode, hcss⟩
  rcases h with ⟨-, hpart⟩ | ⟨-, hpart⟩
  · cases hcode.symm.trans hpart
  · cases hcss.symm.trans hpart

theorem Empty.not_unusable (h : Empty document) : ¬ Unusable document := by
  rintro ⟨-, files, hfiles, -⟩
  rw [h.1] at hfiles
  cases hfiles

/-! ## Reading an item -/

/-- A document is malformed if it is no object or has neither files nor a theme. -/
theorem parse_cases (text : String) :
    (object? text = none ∧ ∃ detail, parse text = .error (.malformedRegistry detail)) ∨
      ∃ document, object? text = some document ∧
        (Empty document ∧ (∃ detail, parse text = .error (.malformedRegistry detail)) ∨
          ¬ Empty document ∧ parse text = .ok (described document)) := by
  cases hparse : Json.parse? text with
  | none => exact .inl ⟨by rw [object?, hparse]; rfl, _, by rw [parse, hparse]⟩
  | some j =>
    cases j with
    | obj members =>
      refine .inr ⟨.obj members, by rw [object?, hparse]; rfl, ?_⟩
      have hitem : parse text =
          if (validFiles? (.obj members)).isNone && (usableTheme? (.obj members)).isNone then
            .error (.malformedRegistry "expected files or theme variables")
          else .ok (described (.obj members)) := by
        rw [parse, hparse]
        rfl
      rw [hitem]
      by_cases hempty : Empty (.obj members)
      · exact .inl ⟨hempty, _, if_pos (by rw [hempty.1, hempty.2]; rfl)⟩
      · refine .inr ⟨hempty, if_neg fun hboth => hempty ?_⟩
        rw [Bool.and_eq_true, Option.isNone_iff_eq_none, Option.isNone_iff_eq_none] at hboth
        exact hboth
    | _ => exact .inl ⟨by rw [object?, hparse]; rfl, _, by rw [parse, hparse]⟩

/-! ## The parts of an item -/

/-- A text is let through unless it is too large. -/
theorem limited_cases (what : String) (limit : Nat) (part : String) :
    part.utf8ByteSize ≤ limit ∧ (limited what limit part).map some = .ok (some part) ∨
      limit < part.utf8ByteSize ∧
        (limited what limit part).map some = .error (.tooLarge what limit) := by
  by_cases h : limit < part.utf8ByteSize
  · exact .inr ⟨h, by rw [limited, if_pos h]; rfl⟩
  · exact .inl ⟨Nat.le_of_not_lt h, by rw [limited, if_neg h]; rfl⟩

/-- The code is that of the chosen file. Only a theme makes up for files of which none is chosen. -/
theorem code_described (limit : Nat) (document : Json) :
    (described document).code limit =
      match codeOf? document with
      | some part => (limited "Selected registry file" limit part).map some
      | none =>
        if validFiles? document ≠ none ∧ usableTheme? document = none then .error .noUsableFile
        else .ok none := by
  unfold code codeOf?
  rw [show (described document).files = validFiles? document from rfl,
    show (described document).theme = usableTheme? document from rfl]
  cases validFiles? document with
  | none => simp
  | some files =>
    simp only [Option.bind_some, selectedContent?]
    cases (File.select? files).bind (·.content) with
    | some content => rfl
    | none => cases usableTheme? document <;> rfl

theorem code_cases (limit : Nat) (document : Json) :
    ((described document).code limit = .ok (codeOf? document) ∧ ¬ Unusable document ∧
        ∀ part, codeOf? document = some part → part.utf8ByteSize ≤ limit) ∨
      ((described document).code limit = .error .noUsableFile ∧ Unusable document) ∨
      ∃ part, (described document).code limit = .error (.tooLarge "Selected registry file" limit) ∧
        codeOf? document = some part ∧ limit < part.utf8ByteSize := by
  rw [code_described]
  cases hcode : codeOf? document with
  | some part =>
    rcases limited_cases "Selected registry file" limit part with ⟨hle, hpart⟩ | ⟨hlt, hpart⟩
    · refine .inl ⟨hpart, fun h => ?_, fun q hq => Option.some.inj hq ▸ hle⟩
      cases hcode.symm.trans (no_part_iff.mpr (.inl h)).1
    · exact .inr (.inr ⟨part, hpart, rfl, hlt⟩)
  | none =>
    by_cases hfiles : validFiles? document ≠ none ∧ usableTheme? document = none
    · obtain ⟨files, hsome⟩ := Option.ne_none_iff_exists'.mp hfiles.1
      exact .inr (.inl ⟨if_pos hfiles, hfiles.2, files, hsome, (codeOf?_eq_none hsome).mp hcode⟩)
    · refine .inl ⟨if_neg hfiles, fun ⟨htheme, files, hsome, _⟩ => hfiles ⟨?_, htheme⟩, ?_⟩
      · rw [hsome]
        exact Option.some_ne_none files
      · exact fun _ h => absurd h.symm (Option.some_ne_none _)

theorem globalCss_cases (limit : Nat) (document : Json) :
    ((described document).globalCss limit = .ok (globalCssOf? document) ∧
        ∀ part, globalCssOf? document = some part → part.utf8ByteSize ≤ limit) ∨
      ∃ part,
        (described document).globalCss limit = .error (.tooLarge "Generated theme CSS" limit) ∧
        globalCssOf? document = some part ∧ limit < part.utf8ByteSize := by
  unfold globalCss globalCssOf?
  rw [show (described document).theme = usableTheme? document from rfl]
  cases usableTheme? document with
  | none => exact .inl ⟨rfl, fun _ h => absurd h.symm (Option.some_ne_none _)⟩
  | some theme =>
    rcases limited_cases "Generated theme CSS" limit (theme.css (readBaseRules document)) with
      ⟨hle, hpart⟩ | ⟨hlt, hpart⟩
    · exact .inl ⟨hpart, fun q hq => Option.some.inj hq ▸ hle⟩
    · exact .inr ⟨_, hpart, rfl, hlt⟩

/-! ## Opening an item -/

/-- What is opened of a document is all that there is, and it fits into the limit. -/
structure Opens (document : Json) (limit : Nat) (o : Opened) : Prop where
  code : o.code = codeOf? document
  globalCss : o.globalCss = globalCssOf? document
  present : o.code ≠ none ∨ o.globalCss ≠ none
  fits : ∀ part, o.code = some part ∨ o.globalCss = some part → part.utf8ByteSize ≤ limit

theorem Opens.not_useless (h : Opens document limit o) :
    ¬ (Unusable document ∨ Empty document) := by
  rw [← no_part_iff, ← h.code, ← h.globalCss]
  exact fun hnone => h.present.elim (absurd hnone.1) (absurd hnone.2)

/-- There is one way to open a document. -/
theorem Opens.unique {o' : Opened} (h : Opens document limit o) (h' : Opens document limit o') :
    o = o' := by
  obtain ⟨code, css⟩ := o
  obtain ⟨code', css'⟩ := o'
  obtain rfl : code = code' := h.code.trans h'.code.symm
  obtain rfl : css = css' := h.globalCss.trans h'.globalCss.symm
  rfl

/-- What was opened is within all limits that are not lower. -/
theorem Opens.admits {l : SnippetLimits} (h : Opens document limit o) (hcode : limit ≤ l.code)
    (hcss : limit ≤ l.globalCss) : l.Admits ⟨o.code.getD "", o.globalCss, .opened⟩ := by
  refine ⟨fun hshared => (by cases hshared), ?_, fun css hsome => ?_⟩
  · show (o.code.getD "").utf8ByteSize ≤ l.code
    cases hpart : o.code with
    | none => exact Nat.zero_le _
    | some part => exact Nat.le_trans (h.fits part (.inl hpart)) hcode
  · exact Nat.le_trans (h.fits css (.inr hsome)) hcss

/-- The item of a document is opened, or it is of no use, or a part of it is too large. -/
theorem prepare_described_cases (hparse : parse text = .ok (described document))
    (hempty : ¬ Empty document) (limit : Nat) :
    (∃ o, prepare text limit = .ok o ∧ Opens document limit o) ∨
      (prepare text limit = .error .noUsableFile ∧ Unusable document) ∨
      ∃ what part, prepare text limit = .error (.tooLarge what limit) ∧ IsPart document what part ∧
        limit < part.utf8ByteSize := by
  have hprepare : prepare text limit =
      ((described document).code limit).bind fun code =>
        ((described document).globalCss limit).bind fun css => .ok ⟨code, css⟩ := by
    rw [prepare, hparse]
    rfl
  rcases code_cases limit document with ⟨hcode, husable, hcodefits⟩ | ⟨hcode, hunusable⟩ |
    ⟨part, hcode, hpart, hlt⟩
  · rcases globalCss_cases limit document with ⟨hcss, hcssfits⟩ | ⟨part, hcss, hpart, hlt⟩
    · refine .inl ⟨⟨codeOf? document, globalCssOf? document⟩, by rw [hprepare, hcode, hcss]; rfl,
        rfl, rfl, ?_, fun part => Or.rec (hcodefits part) (hcssfits part)⟩
      exact not_and_or.mp fun hnone => (no_part_iff.mp hnone).elim husable hempty
    · exact .inr (.inr ⟨_, part, by rw [hprepare, hcode, hcss]; rfl, .inr ⟨rfl, hpart⟩, hlt⟩)
  · exact .inr (.inl ⟨by rw [hprepare, hcode]; rfl, hunusable⟩)
  · exact .inr (.inr ⟨_, part, by rw [hprepare, hcode]; rfl, .inl ⟨rfl, hpart⟩, hlt⟩)

/-- Opening fails in one of three ways. -/
theorem prepare_cases (text : String) (limit : Nat) :
    (∃ document o, object? text = some document ∧ prepare text limit = .ok o ∧
        Opens document limit o) ∨
      (∃ document, object? text = some document ∧ prepare text limit = .error .noUsableFile ∧
        Unusable document) ∨
      ((∃ detail, prepare text limit = .error (.malformedRegistry detail)) ∧
        ∀ document, object? text = some document → Empty document) ∨
      ∃ document what part, object? text = some document ∧
        prepare text limit = .error (.tooLarge what limit) ∧ IsPart document what part ∧
          limit < part.utf8ByteSize := by
  rcases parse_cases text with ⟨hobject, detail, hparse⟩ |
    ⟨document, hobject, ⟨hempty, detail, hparse⟩ | ⟨hempty, hparse⟩⟩
  · exact .inr (.inr (.inl ⟨⟨detail, by rw [prepare, hparse]; rfl⟩, fun d hd => by
      rw [hobject] at hd; cases hd⟩))
  · exact .inr (.inr (.inl ⟨⟨detail, by rw [prepare, hparse]; rfl⟩, fun d hd => by
      rw [hobject] at hd; exact Option.some.inj hd ▸ hempty⟩))
  · rcases prepare_described_cases hparse hempty limit with ⟨o, ho⟩ | hunusable |
      ⟨what, part, hpart⟩
    · exact .inl ⟨document, o, hobject, ho⟩
    · exact .inr (.inl ⟨document, hobject, hunusable⟩)
    · exact .inr (.inr (.inr ⟨document, what, part, hobject, hpart⟩))

theorem prepare_eq_ok_iff : prepare text limit = .ok o ↔
    ∃ document, object? text = some document ∧ Opens document limit o := by
  rcases prepare_cases text limit with ⟨d, o', hobject, hprepare, hopens⟩ |
    ⟨d, hobject, hprepare, hunusable⟩ | ⟨⟨detail, hprepare⟩, hempty⟩ |
    ⟨d, what, part, hobject, hprepare, hpart, hlt⟩
  all_goals
    rw [hprepare]
    refine ⟨fun h => ?_, fun ⟨document, hdocument, h⟩ => ?_⟩
  · exact ⟨d, hobject, Except.ok.inj h ▸ hopens⟩
  · obtain rfl : d = document := Option.some.inj (hobject.symm.trans hdocument)
    rw [hopens.unique h]
  · cases h
  · obtain rfl : d = document := Option.some.inj (hobject.symm.trans hdocument)
    exact absurd (.inl hunusable) h.not_useless
  · cases h
  · exact absurd (.inr (hempty document hdocument)) h.not_useless
  · cases h
  · obtain rfl : d = document := Option.some.inj (hobject.symm.trans hdocument)
    have hle : part.utf8ByteSize ≤ limit := by
      rcases hpart with ⟨-, hpart⟩ | ⟨-, hpart⟩
      · exact h.fits part (.inl (h.code.trans hpart))
      · exact h.fits part (.inr (h.globalCss.trans hpart))
    omega

theorem prepare_eq_noUsableFile_iff : prepare text limit = .error .noUsableFile ↔
    ∃ document, object? text = some document ∧ Unusable document := by
  rcases prepare_cases text limit with ⟨d, o, hobject, hprepare, hopens⟩ |
    ⟨d, hobject, hprepare, hunusable⟩ | ⟨⟨detail, hprepare⟩, hempty⟩ |
    ⟨d, what, part, hobject, hprepare, hpart, -⟩
  all_goals
    rw [hprepare]
    refine ⟨fun h => ?_, fun ⟨document, hdocument, h⟩ => ?_⟩
  · cases h
  · obtain rfl : d = document := Option.some.inj (hobject.symm.trans hdocument)
    exact absurd (.inl h) hopens.not_useless
  · exact ⟨d, hobject, hunusable⟩
  · rfl
  · cases h
  · exact absurd h (hempty document hdocument).not_unusable
  · cases h
  · obtain rfl : d = document := Option.some.inj (hobject.symm.trans hdocument)
    exact absurd (.inl h) hpart.not_useless

theorem prepare_eq_malformed_iff :
    (∃ detail, prepare text limit = .error (.malformedRegistry detail)) ↔
      ∀ document, object? text = some document → Empty document := by
  rcases prepare_cases text limit with ⟨d, o, hobject, hprepare, hopens⟩ |
    ⟨d, hobject, hprepare, hunusable⟩ | ⟨⟨detail, hprepare⟩, hempty⟩ |
    ⟨d, what, part, hobject, hprepare, hpart, -⟩
  all_goals
    rw [hprepare]
    refine ⟨fun ⟨detail, h⟩ => ?_, fun h => ?_⟩
  · cases h
  · exact absurd (.inr (h d hobject)) hopens.not_useless
  · cases h
  · exact absurd hunusable (h d hobject).not_unusable
  · exact hempty
  · exact ⟨detail, rfl⟩
  · cases h
  · exact absurd (.inr (h d hobject)) hpart.not_useless

/-- **What opening an item yields.** Exactly those documents are opened that have code or a theme
and of which no part is too large; what is opened are these parts, and every store whose limits are
not lower takes it. A document is of no use exactly if its files cannot be shown and it has no
theme, and malformed exactly if it is no object or has neither files nor a theme. Otherwise a part
of it is too large. -/
theorem prepare_outcomes (text : String) (limit : Nat) :
    (∀ o, prepare text limit = .ok o ↔
        ∃ document, object? text = some document ∧ Opens document limit o) ∧
      (∀ o, prepare text limit = .ok o → ∀ (s : SnippetStore) (names : List String),
        limit ≤ s.limits.code → limit ≤ s.limits.globalCss → (∃ name ∈ names, s.find? name = none) →
        ∃ s' id, s.create names ⟨o.code.getD "", o.globalCss, .opened⟩ = .ok (some (s', id))) ∧
      (prepare text limit = .error .noUsableFile ↔
        ∃ document, object? text = some document ∧ Unusable document) ∧
      ((∃ detail, prepare text limit = .error (.malformedRegistry detail)) ↔
        ∀ document, object? text = some document → Empty document) ∧
      ∀ e, prepare text limit = .error e →
        e = .noUsableFile ∨ (∃ detail, e = .malformedRegistry detail) ∨
          ∃ document what part, object? text = some document ∧ IsPart document what part ∧
            limit < part.utf8ByteSize ∧ e = .tooLarge what limit := by
  refine ⟨fun o => prepare_eq_ok_iff, fun o hprepare s names hcode hcss hname => ?_,
    prepare_eq_noUsableFile_iff, prepare_eq_malformed_iff, fun e he => ?_⟩
  · obtain ⟨document, -, hopens⟩ := prepare_eq_ok_iff.mp hprepare
    exact SnippetStore.exists_create (hopens.admits hcode hcss) hname
  · rcases prepare_cases text limit with ⟨d, o, -, hprepare, -⟩ | ⟨d, -, hprepare, -⟩ |
      ⟨⟨detail, hprepare⟩, -⟩ | ⟨d, what, part, hobject, hprepare, hpart, hlt⟩
    all_goals rw [hprepare] at he
    · cases he
    · exact .inl (Except.error.inj he).symm
    · exact .inr (.inl ⟨detail, (Except.error.inj he).symm⟩)
    · exact .inr (.inr ⟨d, what, part, hobject, hpart, hlt, (Except.error.inj he).symm⟩)

end Item

end LivePreview.Registry
