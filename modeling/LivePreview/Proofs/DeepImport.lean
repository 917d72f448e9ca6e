import LivePreview.Proofs.TableLookup
import LivePreview.Text.Blank
import LivePreview.Url.Parser
import Mathlib.Data.List.TakeDrop
import Mathlib.Data.List.TakeWhile
/-!
# Imports from inside of a package

What a specifier has behind a key is put behind the URL of the key as it stands, and the browser
removes the dots afterwards. Where that leads is told by the dots alone: `..` may go above the
folder of the package, and from there anywhere on the host. The specifier is allowed all the same,
so it stays in the package only if it does not go up that far or comes back through the same folders
(`deep_import_stays_iff`).

What carries the proof is that segments lead the same way from each folder: so many folders up and
then down (`Way`). Reading a URL goes that way too (`resolveDots_map_ofList`).
-/
namespace LivePreview

namespace Url

/-! ## Removing dots -/

/-- In the path of a URL of the web both are read as a slash. -/
def isSlash (c : Char) : Bool := c == '/' || c == '\\'

/-- Whether a segment only says where to go. -/
def isDots (s : List Char) : Bool := isAbove (String.ofList s) || isSame (String.ofList s)

/-- Goes from a folder to the one that a segment names. -/
def enter (folders : List (List Char)) (s : List Char) : List (List Char) :=
  if isAbove (String.ofList s) then folders.dropLast
  else if isSame (String.ofList s) then folders
  else folders ++ [s]

/-- The empty segment that dots at the end leave. -/
def ending (segments : List (List Char)) : List (List Char) :=
  if segments.getLast?.any isDots then [[]] else []

/-- Segments without those of dots. -/
def withoutDots (segments : List (List Char)) : List (List Char) :=
  segments.foldl enter [] ++ ending segments

/-- Segments as a path. -/
def pathText (segments : List (List Char)) : List Char := segments.flatMap ('/' :: ·)

/-! ## Where URLs lead -/

/-- What follows the host, behind slashes in front of it. -/
def afterHost (s : List Char) : List Char :=
  (s.dropWhile isSlash).dropWhile fun c => !endsAuthority .web c

/-- The path of a URL of the web and what follows it. The scheme may be missing, or the host too. -/
def fromPath (s : List Char) : List Char :=
  match scheme? s with
  | some (scheme, rest) => if schemeKind scheme = .web then afterHost rest else []
  | none =>
    match s.takeWhile isSlash with
    | [] => []
    | [_] => s
    | _ => afterHost s

/-- Whether a path goes on with a character. -/
def inPath (c : Char) : Bool := c != '?' && c != '#'

/-- Where a browser finds what a URL names. -/
def landing (url : String) : String :=
  let s := significant url.toList
  let path := fromPath s
  let segments := (Text.splitWhen isSlash (path.takeWhile inPath)).tail
  String.ofList (s.take (s.length - path.length) ++ pathText (withoutDots segments) ++
    path.dropWhile inPath)

/-- The folders in a path that ends with a slash. -/
def folders (url : String) : List (List Char) :=
  (Text.splitWhen isSlash (fromPath url.toList).tail).dropLast

/-- Whether a browser leaves a character in a URL in front of a query as it is. -/
def isPlain (c : Char) : Bool := c != '\\' && inPath c && !isPadding c

/-- A URL that names a folder, as a browser writes it. -/
structure IsFolder (url : String) : Prop where
  path : fromPath url.toList ≠ []
  slash : url.toList.getLast? = some '/'
  plain : url.toList.all isPlain = true
  entered : ∀ s ∈ folders url, isDots s = false
  notRoot : url ≠ "/"

/-! ## Ways -/

/-- Where segments lead from any folder: so many folders up, and then down. -/
structure Way where
  up : Nat
  down : List (List Char)
deriving DecidableEq

namespace Way

/-- The way without a step. -/
def start : Way := ⟨0, []⟩

/-- Goes on with a segment; behind folders that were entered it goes up through them first. -/
def step (w : Way) (s : List Char) : Way :=
  if isAbove (String.ofList s) then
    if w.down = [] then ⟨w.up + 1, []⟩ else ⟨w.up, w.down.dropLast⟩
  else if isSame (String.ofList s) then w
  else ⟨w.up, w.down ++ [s]⟩

/-- The way of some segments. -/
def along (segments : List (List Char)) : Way :=
  let w := segments.foldl step start
  ⟨w.up, w.down ++ ending segments⟩

/-- The folders at the end of a way. -/
def goFrom (w : Way) (folders : List (List Char)) : List (List Char) :=
  folders.take (folders.length - w.up) ++ w.down

/-- A way from some folders that ends in them: if it goes up, then it comes back down through the
folders that it left. -/
def EndsIn (w : Way) (folders : List (List Char)) : Prop :=
  ∃ more ≠ [], w.down = folders.drop (folders.length - w.up) ++ more

variable {w : Way} {above segments : List (List Char)} {s : List Char}

theorem endsIn_iff : w.EndsIn above ↔ ∃ more ≠ [], w.goFrom above = above ++ more := by
  refine exists_congr fun more => and_congr_right fun _ => ?_
  -- the folders that the way leaves alone are the same on both sides
  conv_rhs =>
    rhs
    rw [← List.take_append_drop (above.length - w.up) above]
  rw [goFrom, List.append_assoc]
  exact (List.append_right_inj _).symm

theorem goFrom_start : start.goFrom above = above := by
  show above.take (above.length - 0) ++ [] = above
  rw [Nat.sub_zero, List.take_length, List.append_nil]

/-- A folder is entered at the end of a way wherever the way started. -/
theorem enter_goFrom (w : Way) (above : List (List Char)) (s : List Char) :
    enter (w.goFrom above) s = (w.step s).goFrom above := by
  unfold enter step
  by_cases habove : isAbove (String.ofList s) = true
  · rw [if_pos habove, if_pos habove]
    by_cases hdown : w.down = []
    · rw [if_pos hdown, goFrom, goFrom, hdown, List.append_nil, List.append_nil,
        List.dropLast_eq_take, List.take_take, List.length_take]
      congr 1
      show min (min (above.length - w.up) above.length - 1) (above.length - w.up) =
        above.length - (w.up + 1)
      omega
    · rw [if_neg hdown, goFrom, goFrom, List.dropLast_append_of_ne_nil hdown]
  · rw [if_neg habove, if_neg habove]
    by_cases hsame : isSame (String.ofList s) = true
    · rw [if_pos hsame, if_pos hsame]
    · rw [if_neg hsame, if_neg hsame, goFrom, goFrom, List.append_assoc]

theorem foldl_enter_goFrom (segments : List (List Char)) :
    segments.foldl enter (w.goFrom above) = (segments.foldl step w).goFrom above := by
  induction segments generalizing w with
  | nil => rfl
  | cons s r ih => rw [List.foldl_cons, List.foldl_cons, enter_goFrom, ih]

end Way

/-- What counts in a text that stands behind a folder. -/
def counting (s : List Char) : List Char :=
  (s.reverse.dropWhile isPadding).reverse.filter fun c => c != '\t' && c != '\n' && c != '\r'

/-- The segments of a text that stands behind a folder. -/
def segmentsBelow (rest : String) : List (List Char) :=
  Text.splitWhen isSlash ((counting rest.toList).takeWhile inPath)

/-- The way of a text that stands behind a folder. -/
def way (rest : String) : Way := .along (segmentsBelow rest)

variable {above segments : List (List Char)} {s x y : List Char}

theorem foldl_enter_of_not_isDots (h : ∀ s ∈ segments, isDots s = false) :
    segments.foldl enter above = above ++ segments := by
  induction segments generalizing above with
  | nil => exact (List.append_nil above).symm
  | cons s r ih =>
    have hs : isAbove (String.ofList s) = false ∧ isSame (String.ofList s) = false :=
      Bool.or_eq_false_iff.mp (h s List.mem_cons_self)
    have henter : enter above s = above ++ [s] := by simp [enter, hs.1, hs.2]
    rw [List.foldl_cons, henter, ih fun s hs => h s (List.mem_cons_of_mem _ hs), List.append_assoc]
    rfl

/-- Below folders, segments lead their way from there. -/
theorem withoutDots_append (habove : ∀ s ∈ above, isDots s = false) (hsegments : segments ≠ []) :
    withoutDots (above ++ segments) = (Way.along segments).goFrom above := by
  have hending : ending (above ++ segments) = ending segments := by
    obtain ⟨front, last, rfl⟩ := List.eq_nil_or_concat segments |>.resolve_left hsegments
    simp [ending]
  rw [withoutDots, hending, List.foldl_append, foldl_enter_of_not_isDots habove, List.nil_append]
  have hway : segments.foldl enter above = (segments.foldl Way.step .start).goFrom above := by
    rw [← Way.foldl_enter_goFrom, Way.goFrom_start]
  rw [hway, Way.goFrom, Way.goFrom, Way.along, List.append_assoc]

/-! ## Reading paths -/

theorem parent_map_ofList (h : ∀ s ∈ above, isDisk s = false) :
    parent (above.map String.ofList) = above.dropLast.map String.ofList := by
  unfold parent
  rw [List.getLast?_map]
  cases hlast : above.getLast? with
  | none => simp [List.getLast?_eq_none_iff.mp hlast]
  | some last =>
    have hdisk : isDisk last = false := h last (List.mem_of_getLast? hlast)
    simp [hdisk]

/-- Reading a URL removes the dots from its path, apart from disks, above which it does not go. -/
theorem resolveDots_map_ofList (habove : ∀ s ∈ above, isDisk s = false)
    (hsegments : ∀ s ∈ segments, isDisk s = false) :
    resolveDots (above.map String.ofList) (segments.map String.ofList) =
      (segments.foldl enter above ++ ending segments).map String.ofList := by
  induction segments generalizing above with
  | nil => simp [resolveDots, ending]
  | cons s r ih =>
    have hparent := parent_map_ofList habove
    have hs := hsegments s List.mem_cons_self
    cases r with
    | nil =>
      by_cases hup : isAbove (String.ofList s) = true
      · simp [resolveDots, ending, enter, isDots, hup, hparent]
      · by_cases hsame : isSame (String.ofList s) = true
        · simp [resolveDots, ending, enter, isDots, hup, hsame]
        · simp [resolveDots, ending, enter, isDots, hup, hsame]
    | cons a r =>
      have hending : ending (s :: a :: r) = ending (a :: r) := by simp [ending]
      have hr : ∀ above' : List (List Char), (∀ s ∈ above', isDisk s = false) →
          resolveDots (above'.map String.ofList) ((a :: r).map String.ofList) = _ := fun _ h =>
        ih h fun s hs => hsegments s (List.mem_cons_of_mem _ hs)
      rw [hending, List.foldl_cons, List.map_cons, List.map_cons, resolveDots, ← List.map_cons]
      · by_cases hup : isAbove (String.ofList s) = true
        · rw [if_pos hup, hparent, hr _ fun s hs => habove s (List.dropLast_subset _ hs), enter,
            if_pos hup]
        · by_cases hsame : isSame (String.ofList s) = true
          · rw [if_neg hup, if_pos hsame, hr _ habove, enter, if_neg hup, if_pos hsame]
          · have hboth : ∀ d ∈ above ++ [s], isDisk d = false := by
              intro d hd
              rcases List.mem_append.mp hd with hd | hd
              · exact habove d hd
              · exact List.mem_singleton.mp hd ▸ hs
            rw [if_neg hup, if_neg hsame, enter, if_neg hup, if_neg hsame, ← hr _ hboth,
              List.map_append]
            rfl
      · simp

/-! ## Texts of paths -/

/-- What starts with a segment and a slash has that segment in front. -/
theorem append_isPrefix_pathText_iff (hs : '/' ∉ s) (hx : '/' ∉ x) :
    s ++ '/' :: y <+: x ++ pathText segments ↔ s = x ∧ '/' :: y <+: pathText segments := by
  constructor
  · rintro ⟨rest, h⟩
    rw [List.append_assoc] at h
    rcases List.append_eq_append_iff.mp h with ⟨z, rfl, hz⟩ | ⟨z, rfl, hz⟩
    · cases z with
      | nil => exact ⟨(List.append_nil s).symm, rest, hz⟩
      | cons c z =>
        obtain rfl : '/' = c := (List.cons.inj hz).1
        exact absurd (List.mem_append_right s List.mem_cons_self) hx
    · cases z with
      | nil => exact ⟨List.append_nil x, rest, hz.symm⟩
      | cons c z =>
        cases segments with
        | nil => cases hz
        | cons a r =>
          obtain rfl : '/' = c := (List.cons.inj hz).1
          exact absurd (List.mem_append_right x List.mem_cons_self) hs
  · rintro ⟨rfl, h⟩
    exact (List.prefix_append_right_inj s).mpr h

/-- A path starts with a folder if its text starts with the text of the folder. -/
theorem pathText_isPrefix_iff (habove : ∀ s ∈ above, '/' ∉ s)
    (hsegments : ∀ s ∈ segments, '/' ∉ s) :
    pathText (above ++ [[]]) <+: pathText segments ↔ ∃ more ≠ [], segments = above ++ more := by
  induction above generalizing segments with
  | nil =>
    cases segments with
    | nil => simp [pathText]
    | cons s r => simp [pathText]
  | cons a above ih =>
    cases segments with
    | nil => simp [pathText]
    | cons s r =>
      have hrest := ih (fun s hs => habove s (List.mem_cons_of_mem _ hs))
        (fun s hs => hsegments s (List.mem_cons_of_mem _ hs))
      obtain ⟨y, hy⟩ : ∃ y, pathText (above ++ [[]]) = '/' :: y := by
        cases above with
        | nil => exact ⟨[], rfl⟩
        | cons b above => exact ⟨b ++ pathText (above ++ [[]]), rfl⟩
      show '/' :: (a ++ pathText (above ++ [[]])) <+: '/' :: (s ++ pathText r) ↔ _
      rw [List.prefix_cons_inj, hy, append_isPrefix_pathText_iff (habove a List.mem_cons_self)
        (hsegments s List.mem_cons_self), ← hy, hrest]
      constructor
      · rintro ⟨rfl, more, hmore, rfl⟩
        exact ⟨more, hmore, rfl⟩
      · rintro ⟨more, hmore, h⟩
        obtain ⟨rfl, rfl⟩ := List.cons.inj h
        exact ⟨rfl, more, hmore, rfl⟩

/-- Segments are the path that was cut into them. -/
theorem pathText_splitWhen (h : '\\' ∉ x) : pathText (Text.splitWhen isSlash x) = '/' :: x := by
  induction x with
  | nil => rfl
  | cons c r ih =>
    have hr := ih fun hmem => h (List.mem_cons_of_mem c hmem)
    rw [Text.splitWhen]
    by_cases hc : isSlash c = true
    · rw [if_pos hc]
      obtain rfl : c = '/' := by
        rcases Bool.or_eq_true_iff.mp hc with hc | hc
        · simpa using hc
        · have : c = '\\' := by simpa using hc
          exact absurd (this ▸ List.mem_cons_self) h
      show '/' :: pathText (Text.splitWhen isSlash r) = _
      rw [hr]
    · rw [if_neg hc]
      cases hsplit : Text.splitWhen isSlash r with
      | nil => exact absurd hsplit (Text.splitWhen_ne_nil _ r)
      | cons w ws =>
        rw [hsplit] at hr
        have htail : w ++ pathText ws = r := (List.cons.inj hr).2
        show '/' :: c :: (w ++ pathText ws) = _
        rw [htail]

/-! ## Texts that go on -/

section Append

variable {p : Char → Bool}

theorem dropWhile_append_of_ne_nil (h : s.dropWhile p ≠ []) :
    (s ++ x).dropWhile p = s.dropWhile p ++ x := by
  rw [List.dropWhile_append, if_neg (by simpa using h)]

theorem takeWhile_append_of_ne_nil (h : s.dropWhile p ≠ []) :
    (s ++ x).takeWhile p = s.takeWhile p := by
  have hlength : (s.takeWhile p).length ≠ s.length := by
    have := congrArg List.length (List.takeWhile_append_dropWhile (p := p) (l := s))
    rw [List.length_append] at this
    have := List.length_pos_iff.mpr h
    omega
  rw [List.takeWhile_append, if_neg hlength]

end Append

theorem scheme?_append (h : s.dropWhile isSchemePart ≠ []) (x : List Char) :
    scheme? (s ++ x) = (scheme? s).map fun p => (p.1, p.2 ++ x) := by
  unfold scheme?
  rw [List.span_eq_takeWhile_dropWhile, List.span_eq_takeWhile_dropWhile,
    takeWhile_append_of_ne_nil h, dropWhile_append_of_ne_nil h]
  cases s.takeWhile isSchemePart with
  | nil => rfl
  | cons c front =>
    cases hrest : s.dropWhile isSchemePart with
    | nil => exact absurd hrest h
    | cons d rest =>
      by_cases hd : d = ':'
      · subst hd
        show (if _ then _ else _) = Option.map _ (if _ then _ else _)
        split
        · rfl
        · rfl
      · simp [hd]

theorem afterHost_append (h : afterHost s ≠ []) (x : List Char) :
    afterHost (s ++ x) = afterHost s ++ x := by
  have hslashes : s.dropWhile isSlash ≠ [] := by
    intro hnil
    rw [afterHost, hnil] at h
    exact h rfl
  rw [afterHost, dropWhile_append_of_ne_nil hslashes, dropWhile_append_of_ne_nil h]
  rfl

theorem scheme?_suffix {scheme : String} {rest : List Char} (h : scheme? s = some (scheme, rest)) :
    rest <:+ s := by
  unfold scheme? at h
  rw [List.span_eq_takeWhile_dropWhile] at h
  have hdrop : s.dropWhile isSchemePart <:+ s := List.dropWhile_suffix isSchemePart
  split at h
  rename_i front behind hspan
  obtain ⟨-, rfl⟩ := Prod.mk.inj hspan
  split at h
  · rename_i hrest
    split at h
    · obtain ⟨-, rfl⟩ := Prod.mk.inj (Option.some.inj h)
      rw [hrest] at hdrop
      exact (List.suffix_cons ':' _).trans hdrop
    · cases h
  · cases h

theorem afterHost_suffix (s : List Char) : afterHost s <:+ s :=
  (List.dropWhile_suffix _).trans (List.dropWhile_suffix _)

theorem fromPath_suffix (s : List Char) : fromPath s <:+ s := by
  unfold fromPath
  split
  · rename_i scheme rest hscheme
    split
    · exact (afterHost_suffix rest).trans (scheme?_suffix hscheme)
    · exact List.nil_suffix
  · split
    · exact List.nil_suffix
    · exact List.suffix_rfl
    · exact afterHost_suffix s

theorem head_afterHost {c : Char} (h : afterHost s = c :: x) : endsAuthority .web c = true := by
  have hhead := List.head?_dropWhile_not (fun c => !endsAuthority .web c) (s.dropWhile isSlash)
  rw [show (s.dropWhile isSlash).dropWhile _ = c :: x from h] at hhead
  simpa using hhead

/-- A path starts with a slash of one of both kinds, unless something else follows the host. -/
theorem head_fromPath {c : Char} (h : fromPath s = c :: x) : endsAuthority .web c = true := by
  unfold fromPath at h
  split at h
  · split at h
    · exact head_afterHost h
    · cases h
  · split at h
    · cases h
    · rename_i d hslash
      have hd : isSlash d = true := by
        have hmem : d ∈ s.takeWhile isSlash := hslash ▸ List.mem_cons_self
        exact List.mem_takeWhile_imp hmem
      obtain ⟨rest, hrest⟩ := List.takeWhile_prefix (p := isSlash) (l := s)
      rw [hslash, h] at hrest
      obtain rfl : d = c := (List.cons.inj hrest).1
      simp only [isSlash, Bool.or_eq_true] at hd
      simp only [endsAuthority, Bool.or_eq_true, Bool.and_eq_true]
      grind
    · exact head_afterHost h

/-! ## Below a folder -/

namespace IsFolder

variable {url : String}

theorem plain_of_mem (h : IsFolder url) {c : Char} (hc : c ∈ url.toList) :
    c ≠ '\\' ∧ inPath c = true ∧ isPadding c = false := by
  have hplain := List.all_eq_true.mp h.plain c hc
  simp only [isPlain, Bool.and_eq_true, bne_iff_ne, Bool.not_eq_true'] at hplain
  exact ⟨hplain.1.1, hplain.1.2, hplain.2⟩

theorem fromPath_append (h : IsFolder url) (x : List Char) :
    fromPath (url.toList ++ x) = fromPath url.toList ++ x := by
  have hslash : '/' ∈ url.toList := List.mem_of_getLast? h.slash
  have hscheme : url.toList.dropWhile isSchemePart ≠ [] := by
    intro hnil
    exact absurd (List.dropWhile_eq_nil_iff.mp hnil '/' hslash) (by decide)
  have hpath := h.path
  unfold fromPath at hpath ⊢
  rw [scheme?_append hscheme]
  cases hfound : scheme? url.toList with
  | some p =>
    rw [hfound] at hpath
    simp only [Option.map_some] at hpath ⊢
    split
    · rename_i hweb
      rw [if_pos hweb] at hpath
      exact afterHost_append hpath x
    · rename_i hweb
      exact absurd (if_neg hweb) hpath
  | none =>
    rw [hfound] at hpath
    simp only [Option.map_none] at hpath ⊢
    -- the slashes in front are followed by something, so they are not more in the longer text
    have hslashes : url.toList.dropWhile isSlash ≠ [] := by
      intro hnil
      have hall : url.toList.takeWhile isSlash = url.toList := by
        have := List.takeWhile_append_dropWhile (p := isSlash) (l := url.toList)
        rwa [hnil, List.append_nil] at this
      rw [hall] at hpath
      split at hpath
      · exact hpath rfl
      · rename_i c hone
        have hc : c = '/' := by simpa [hone] using h.slash
        exact h.notRoot (String.toList_inj.mp (by rw [hone, hc]; rfl))
      · exact hpath (by rw [afterHost, hnil]; rfl)
    rw [takeWhile_append_of_ne_nil hslashes]
    split at hpath
    · exact absurd rfl hpath
    · rfl
    · exact afterHost_append hpath x

theorem fromPath_eq_cons (h : IsFolder url) : ∃ r, fromPath url.toList = '/' :: r := by
  cases hpath : fromPath url.toList with
  | nil => exact absurd hpath h.path
  | cons c r =>
    have hmem : c ∈ url.toList := (fromPath_suffix _).subset (hpath ▸ List.mem_cons_self)
    obtain ⟨hback, hin, -⟩ := h.plain_of_mem hmem
    have hends := head_fromPath hpath
    simp only [endsAuthority, inPath, Bool.or_eq_true, Bool.and_eq_true] at hends hin
    refine ⟨r, ?_⟩
    grind

/-- What stands in a folder has its folders in front. -/
theorem splitWhen_fromPath_append (h : IsFolder url) (x : List Char) :
    (Text.splitWhen isSlash (fromPath url.toList ++ x)).tail =
      folders url ++ Text.splitWhen isSlash x := by
  obtain ⟨r, hr⟩ := h.fromPath_eq_cons
  rw [folders, hr]
  show Text.splitWhen isSlash (r ++ x) = (Text.splitWhen isSlash r).dropLast ++ _
  rcases List.eq_nil_or_concat r with rfl | ⟨front, c, rfl⟩
  · rfl
  · obtain ⟨origin, horigin⟩ := fromPath_suffix url.toList
    have hlast := h.slash
    rw [← horigin, hr, List.concat_eq_append, ← List.cons_append, ← List.append_assoc,
      List.getLast?_concat] at hlast
    obtain rfl : c = '/' := Option.some.inj hlast
    have hcut (y : List Char) : Text.splitWhen isSlash (front ++ '/' :: y) =
        Text.splitWhen isSlash front ++ Text.splitWhen isSlash y :=
      Text.splitWhen_append_cons rfl front y
    rw [List.concat_eq_append, List.append_assoc]
    show Text.splitWhen isSlash (front ++ '/' :: x) = _
    rw [hcut, hcut, show Text.splitWhen isSlash [] = [[]] from rfl, List.dropLast_concat]

theorem fromPath_eq (h : IsFolder url) : fromPath url.toList = pathText (folders url ++ [[]]) := by
  obtain ⟨r, hr⟩ := h.fromPath_eq_cons
  have hback : '\\' ∉ r := by
    intro hmem
    have : '\\' ∈ url.toList := (fromPath_suffix _).subset (hr ▸ List.mem_cons_of_mem _ hmem)
    exact (h.plain_of_mem this).1 rfl
  have hsplit := h.splitWhen_fromPath_append []
  rw [hr, List.append_nil] at hsplit
  rw [hr, ← pathText_splitWhen hback]
  exact congrArg pathText hsplit

/-- What counts of a text in a folder is the folder and what counts of the rest. -/
theorem significant_append (h : IsFolder url) (x : List Char) :
    significant (url.toList ++ x) = url.toList ++ counting x := by
  have hkept : url.toList.filter (fun c => c != '\t' && c != '\n' && c != '\r') = url.toList := by
    refine List.filter_eq_self.mpr fun c hc => ?_
    have hpadding := (h.plain_of_mem hc).2.2
    simp only [Bool.and_eq_true, bne_iff_ne]
    refine ⟨⟨?_, ?_⟩, ?_⟩
    all_goals
      rintro rfl
      exact absurd hpadding (by decide)
  have hfront : (url.toList ++ x).dropWhile isPadding = url.toList ++ x := by
    cases hurl : url.toList with
    | nil => exact absurd h.slash (by simp [hurl])
    | cons c r =>
      have hc : isPadding c = false := (h.plain_of_mem (hurl ▸ List.mem_cons_self)).2.2
      exact List.dropWhile_cons_of_neg (by simp [hc])
  have hback : url.toList.reverse.dropWhile isPadding = url.toList.reverse := by
    cases hurl : url.toList.reverse with
    | nil => rfl
    | cons c r =>
      have hc : isPadding c = false :=
        (h.plain_of_mem (List.mem_reverse.mp (hurl ▸ List.mem_cons_self))).2.2
      exact List.dropWhile_cons_of_neg (by simp [hc])
  have hend : ((url.toList ++ x).reverse.dropWhile isPadding).reverse =
      url.toList ++ (x.reverse.dropWhile isPadding).reverse := by
    rw [List.reverse_append, List.dropWhile_append]
    split
    · rename_i hnil
      rw [hback, List.isEmpty_iff.mp hnil, List.reverse_reverse]
      exact (List.append_nil _).symm
    · rw [List.reverse_append, List.reverse_reverse]
  rw [significant, hfront, hend, List.filter_append, hkept, counting]

/-- What stands in a folder is found at the end of its way from there. -/
theorem landing_append (h : IsFolder url) (rest : String) :
    ∃ origin, url.toList = origin ++ pathText (folders url ++ [[]]) ∧
      (landing (url ++ rest)).toList = origin ++ pathText ((way rest).goFrom (folders url)) ++
        (counting rest.toList).dropWhile inPath := by
  obtain ⟨origin, horigin⟩ := fromPath_suffix url.toList
  have hin : ∀ c ∈ fromPath url.toList, inPath c = true := fun c hc =>
    (h.plain_of_mem ((fromPath_suffix _).subset hc)).2.1
  have hpath := h.fromPath_append (counting rest.toList)
  refine ⟨origin, by rw [← h.fromPath_eq, horigin], ?_⟩
  have hsegments : Text.splitWhen isSlash ((counting rest.toList).takeWhile inPath) ≠ [] :=
    Text.splitWhen_ne_nil _ _
  have hfront : (url.toList ++ counting rest.toList).take
      ((url.toList ++ counting rest.toList).length -
        (fromPath url.toList ++ counting rest.toList).length) = origin := by
    have htext : url.toList ++ counting rest.toList =
        origin ++ (fromPath url.toList ++ counting rest.toList) := by
      rw [← List.append_assoc, horigin]
    rw [htext, List.length_append, Nat.add_sub_cancel]
    exact List.take_left
  rw [landing, String.toList_ofList, String.toList_append, h.significant_append]
  rw [hpath, hfront, List.takeWhile_append_of_pos hin, List.dropWhile_append_of_pos hin,
    h.splitWhen_fromPath_append, withoutDots_append h.entered hsegments]
  rfl

end IsFolder

/-! ## The segments of a way -/

namespace Way

variable {w : Way}

/-- A way goes down through some of its segments. -/
theorem mem_foldl_step (h : s ∈ (segments.foldl step w).down) : s ∈ w.down ∨ s ∈ segments := by
  induction segments generalizing w with
  | nil => exact .inl h
  | cons a r ih =>
    rcases ih h with hdown | hr
    · have hstep : s ∈ w.down ∨ s = a := by
        unfold step at hdown
        split at hdown
        · split at hdown
          · cases hdown
          · exact .inl (List.dropLast_subset _ hdown)
        · split at hdown
          · exact .inl hdown
          · simpa using hdown
      rcases hstep with hdown | rfl
      · exact .inl hdown
      · exact .inr List.mem_cons_self
    · exact .inr (List.mem_cons_of_mem a hr)

theorem mem_along (h : s ∈ (along segments).down) : s = [] ∨ s ∈ segments := by
  rcases List.mem_append.mp h with hdown | hending
  · exact (mem_foldl_step hdown).elim (fun hmem => absurd hmem List.not_mem_nil) .inr
  · unfold ending at hending
    split at hending
    · exact .inl (List.mem_singleton.mp hending)
    · cases hending

end Way

theorem not_mem_folders (url : String) : ∀ s ∈ folders url, '/' ∉ s := by
  intro s hs hmem
  have hslash := Text.not_of_mem_splitWhen (List.dropLast_subset _ hs) '/' hmem
  exact absurd hslash (by decide)

theorem not_mem_way (rest : String) : ∀ s ∈ (way rest).down, '/' ∉ s := by
  intro s hs hmem
  rcases Way.mem_along hs with rfl | hsegment
  · cases hmem
  · exact absurd (Text.not_of_mem_splitWhen hsegment '/' hmem) (by decide)

/-- A text of a path does not reach into what follows the path. -/
theorem isPrefix_append_dropWhile_iff (hs : ∀ c ∈ s, inPath c = true) :
    s <+: x ++ y.dropWhile inPath ↔ s <+: x := by
  constructor
  · rintro ⟨rest, h⟩
    rcases List.append_eq_append_iff.mp h with ⟨z, rfl, -⟩ | ⟨z, rfl, hz⟩
    · exact List.prefix_append s z
    · cases z with
      | nil => exact ⟨[], by simp⟩
      | cons c z =>
        have hhead := List.head?_dropWhile_not inPath y
        rw [hz] at hhead
        have hc : inPath c = false := by simpa using hhead
        rw [hs c (List.mem_append_right x List.mem_cons_self)] at hc
        cases hc
  · exact fun h => h.trans (List.prefix_append _ _)

/-- What stands in a folder is found there unless its way goes up, or else if it comes back down
through the same folders. -/
theorem startsWith_landing_iff {url : String} (h : IsFolder url) (rest : String) :
    Text.startsWith url (landing (url ++ rest)) = true ↔ (way rest).EndsIn (folders url) := by
  obtain ⟨origin, hurl, hlanding⟩ := h.landing_append rest
  have hin : ∀ c ∈ url.toList, inPath c = true := fun c hc => (h.plain_of_mem hc).2.1
  have hslash : ∀ s ∈ (way rest).goFrom (folders url), '/' ∉ s := by
    intro s hs
    rcases List.mem_append.mp hs with hs | hs
    · exact not_mem_folders url s (List.mem_of_mem_take hs)
    · exact not_mem_way rest s hs
  rw [Text.startsWith_eq_true, hlanding, isPrefix_append_dropWhile_iff hin]
  conv_lhs => rw [hurl]
  rw [List.prefix_append_right_inj, pathText_isPrefix_iff (not_mem_folders url) hslash,
    Way.endsIn_iff]

end Url

namespace ImportTable

open Url

variable {t : ImportTable} {specifier key url : String}

/-- **Where a deep import leads.** A specifier that is no key of a table but stands behind one whose
URL names a folder is allowed, and it is looked for behind that URL. A browser finds it in the
folder if and only if the dots in it do not lead up and out of the folder, or if it comes back
through the folders that it left. -/
theorem deep_import_stays_iff (hentry : t.entry? specifier = none)
    (hlongest : t.longestPrefix? specifier = some (key, url)) (hfolder : IsFolder url) :
    ∃ rest, specifier = key ++ rest ∧ t.isAllowed specifier = true ∧
      t.resolve? specifier = some (url ++ rest) ∧
      (Text.startsWith url (landing (url ++ rest)) = true ↔ (way rest).EndsIn (folders url)) := by
  obtain ⟨rest, hspecifier, hresolve⟩ := resolve?_below hentry hlongest
  refine ⟨rest, hspecifier, ?_, hresolve, startsWith_landing_iff hfolder rest⟩
  simp [isAllowed, hlongest]

/-- The way back into the package. -/
theorem deep_import_stays_of_detour :
    ∃ rest, "react/../react@19.1.0/jsx-runtime" = "react/" ++ rest ∧
      Text.startsWith "https://esm.sh/react@19.1.0/"
        (landing ("https://esm.sh/react@19.1.0/" ++ rest)) = true := by
  have hentry : ImportTable.entry? ((empty "https://esm.sh").packageWithSubpaths "react" "19.1.0")
      "react/../react@19.1.0/jsx-runtime" = none := rfl
  have hlongest : ((empty "https://esm.sh").packageWithSubpaths "react" "19.1.0").longestPrefix?
      "react/../react@19.1.0/jsx-runtime" = some ("react/", "https://esm.sh/react@19.1.0/") := rfl
  have hfolder : IsFolder "https://esm.sh/react@19.1.0/" :=
    ⟨by decide, by decide, by decide, by decide, by decide⟩
  obtain ⟨rest, hspecifier, -, -, hstays⟩ := deep_import_stays_iff hentry hlongest hfolder
  obtain rfl : "../react@19.1.0/jsx-runtime" = rest :=
    (String.append_right_inj "react/").mp hspecifier
  exact ⟨_, hspecifier, hstays.mpr ⟨["jsx-runtime".toList], by decide, by decide⟩⟩

/-- The way to a package that the table does not know. -/
theorem deep_import_of_unknown_package :
    ImportTable.entry? ((empty "https://esm.sh").packageWithSubpaths "react" "19.1.0")
        "react/../left-pad@1.3.0" = none ∧
      ((empty "https://esm.sh").packageWithSubpaths "react" "19.1.0").longestPrefix?
        "react/../left-pad@1.3.0" = some ("react/", "https://esm.sh/react@19.1.0/") ∧
      ((empty "https://esm.sh").packageWithSubpaths "react" "19.1.0").isAllowed
        "react/../left-pad@1.3.0" = true ∧
      ((empty "https://esm.sh").packageWithSubpaths "react" "19.1.0").resolve?
        "react/../left-pad@1.3.0" = some "https://esm.sh/react@19.1.0/../left-pad@1.3.0" ∧
      landing "https://esm.sh/react@19.1.0/../left-pad@1.3.0" = "https://esm.sh/left-pad@1.3.0" ∧
      Text.startsWith "https://esm.sh/react@19.1.0/" "https://esm.sh/left-pad@1.3.0" = false := by
  decide

end ImportTable

end LivePreview
