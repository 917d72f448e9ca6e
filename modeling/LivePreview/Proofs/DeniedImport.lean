import LivePreview.Proofs.ImportGate
import LivePreview.Text.Blank
/-!
# What is said about an import that is not allowed

The first of the specifiers in a source that the table does not allow is reported before the source
is parsed, so nothing else that is wrong with the source is reported in its place. The report names
the specifier and lists what is allowed, and its position is a place where the specifier stands in
the source (`denied_first`). The scan and the search for the position do not look for the same
texts: the scan takes quotes of any kind for each other, and the search first looks for a pair of
equal ones. Whatever it finds, the text that it points at is the specifier.
-/
namespace LivePreview

/-! ## Lines -/

namespace Text

variable {p : Char → Bool} {s w : List Char}

/-- A piece of a text, and the cuts between the pieces, are part of the text. -/
theorem countP_add_length_le (h : w ∈ splitWhen p s) : s.countP p + w.length ≤ s.length := by
  induction s generalizing w with
  | nil =>
    obtain rfl : w = [] := by simpa [splitWhen] using h
    simp
  | cons c r ih =>
    unfold splitWhen at h
    split at h
    · rename_i hc
      rw [List.countP_cons_of_pos hc, List.length_cons]
      rcases List.mem_cons.mp h with rfl | hw
      · have := List.countP_le_length (p := p) (l := r)
        simp only [List.length_nil]
        omega
      · have := ih hw
        omega
    · rename_i hc
      rw [List.countP_cons_of_neg hc, List.length_cons]
      split at h
      · rename_i hnil
        exact absurd hnil (splitWhen_ne_nil p r)
      · rename_i v ws hsplit
        rcases List.mem_cons.mp h with rfl | hw
        · have := ih (w := v) (hsplit ▸ List.mem_cons_self)
          rw [List.length_cons]
          omega
        · have := ih (w := w) (hsplit ▸ List.mem_cons_of_mem v hw)
          omega

/-- There is one piece more than there are cuts. -/
theorem length_splitWhen (p : Char → Bool) (s : List Char) :
    (splitWhen p s).length = s.countP p + 1 := by
  induction s with
  | nil => rfl
  | cons c r ih =>
    unfold splitWhen
    split
    · rename_i hc
      rw [List.length_cons, List.countP_cons_of_pos hc, ih]
    · rename_i hc
      rw [List.countP_cons_of_neg hc, ← ih]
      split
      · rename_i hnil
        exact absurd hnil (splitWhen_ne_nil p r)
      · rename_i v ws hsplit
        rw [hsplit, List.length_cons, List.length_cons]

/-- A text without a cut is part of the first piece. -/
theorem splitWhen_append {a b : List Char} {ws : List (List Char)} (ha : ∀ c ∈ a, p c = false)
    (hb : splitWhen p b = w :: ws) : splitWhen p (a ++ b) = (a ++ w) :: ws := by
  induction a with
  | nil => exact hb
  | cons c r ih =>
    have hr := ih fun d hd => ha d (List.mem_cons_of_mem c hd)
    simp [splitWhen, ha c List.mem_cons_self, hr]

namespace Position

/-- The line with the number of the position has the text at the position's column. -/
def PointsAt (p : Position) (text source : List Char) : Prop :=
  0 < p.line ∧ ∃ line, (splitWhen (· == '\n') source)[p.line - 1]? = some line ∧
    text <+: line.drop p.column

variable {text source line : List Char} {pos : Position}

/-- A text stands behind the quote in front of it. -/
theorem prefix_of_quotedColumn? {column : Nat} (h : quotedColumn? text line = some column) :
    text <+: line.drop (column + 1) := by
  have hbehind : ∀ (q : Char) (a b : List Char), line = a ++ (q :: text ++ [q]) ++ b →
      text <+: line.drop (a.length + 1) := by
    rintro q a b rfl
    refine ⟨q :: b, ?_⟩
    simp [List.drop_append]
  unfold quotedColumn? at h
  split at h
  · rename_i a b hcut
    cases h
    exact hbehind '"' a b (eq_append_of_cutChars? hcut)
  · obtain ⟨⟨a, b⟩, hcut, hcolumn⟩ := Option.map_eq_some_iff.mp h
    cases hcolumn
    exact hbehind '\'' a b (eq_append_of_cutChars? hcut)

theorem of_quoted? {n : Nat} {lines : List (List Char)} (h : quoted? text n lines = some pos) :
    ∃ i line, lines[i]? = some line ∧ pos.line = n + i ∧ text <+: line.drop pos.column := by
  induction lines generalizing n with
  | nil => cases h
  | cons l lines ih =>
    unfold quoted? at h
    split at h
    · rename_i column hcolumn
      cases h
      exact ⟨0, l, rfl, rfl, prefix_of_quotedColumn? hcolumn⟩
    · obtain ⟨i, line, hline, hnumber, hprefix⟩ := ih h
      exact ⟨i + 1, line, hline, by omega, hprefix⟩

/-- A text is its last line, or its last line behind others and a line feed. -/
theorem exists_lastLine (before : List Char) :
    ∃ tail, (∀ c ∈ tail, (c == '\n') = false) ∧ (behind before).column = tail.length ∧
      (before = tail ∨ ∃ front, before = front ++ '\n' :: tail) := by
  have hsplit := List.takeWhile_append_dropWhile (p := (· != '\n')) (l := before.reverse)
  have hplain : ∀ c ∈ before.reverse.takeWhile (· != '\n'), (c == '\n') = false := fun c hc => by
    simpa using List.all_eq_true.mp List.all_takeWhile c hc
  refine ⟨(before.reverse.takeWhile (· != '\n')).reverse, by simpa using hplain,
    List.length_reverse.symm, ?_⟩
  cases hrest : before.reverse.dropWhile (· != '\n') with
  | nil =>
    rw [hrest, List.append_nil] at hsplit
    exact .inl (by rw [hsplit, List.reverse_reverse])
  | cons c r =>
    have hc : c = '\n' := by
      have := List.head?_dropWhile_not (· != '\n') before.reverse
      simpa [hrest] using this
    subst hc
    refine .inr ⟨r.reverse, ?_⟩
    rw [hrest] at hsplit
    have := congrArg List.reverse hsplit
    simpa using this.symm

/-- Every line ends with a line feed if one is added at the end. -/
theorem flatMap_splitWhen (s : List Char) :
    (splitWhen (· == '\n') s).flatMap (· ++ ['\n']) = s ++ ['\n'] := by
  induction s with
  | nil => rfl
  | cons c r ih =>
    rw [splitWhen]
    split
    · rename_i hc
      obtain rfl : c = '\n' := by simpa using hc
      rw [List.flatMap_cons, ih]
      rfl
    · split
      · rename_i hnil
        exact absurd hnil (splitWhen_ne_nil _ r)
      · rename_i w ws hsplit
        rw [hsplit, List.flatMap_cons] at ih
        rw [List.flatMap_cons, List.cons_append, List.cons_append, ih, List.cons_append]

/-- How the lines of a text stand to a front of it: the lines above the end of the front, what the
front has of its last line, and the lines of what follows. -/
theorem exists_lines (before : List Char) {rest w : List Char} {ws : List (List Char)}
    (hrest : splitWhen (· == '\n') rest = w :: ws) :
    ∃ above tail, splitWhen (· == '\n') (before ++ rest) = above ++ (tail ++ w) :: ws ∧
      above.flatMap (· ++ ['\n']) ++ tail = before ∧
      above.length + 1 = (behind before).line ∧ tail.length = (behind before).column := by
  obtain ⟨tail, htail, hcolumn, hbefore⟩ := exists_lastLine before
  have hline : splitWhen (· == '\n') (tail ++ rest) = (tail ++ w) :: ws :=
    splitWhen_append htail hrest
  have hcount : tail.count '\n' = 0 := by
    refine List.count_eq_zero_of_not_mem fun hmem => ?_
    simpa using htail _ hmem
  rcases hbefore with rfl | ⟨front, rfl⟩
  · exact ⟨[], before, hline, rfl, by simp [behind, hcount], hcolumn.symm⟩
  · refine ⟨splitWhen (· == '\n') front, tail, ?_, ?_, ?_, hcolumn.symm⟩
    · rw [List.append_assoc, List.cons_append]
      exact (splitWhen_append_cons (by rfl) front _).trans (congrArg _ hline)
    · rw [flatMap_splitWhen, List.append_assoc, List.singleton_append]
    · have hfront : (splitWhen (· == '\n') front).length = front.count '\n' + 1 :=
        length_splitWhen _ front
      show _ = (front ++ '\n' :: tail).count '\n' + 1
      rw [hfront, List.count_append, List.count_cons_self, hcount]

/-- A text without a line feed stands at the position behind what is in front of it. -/
theorem pointsAt_behind {before rest : List Char} (h : ∀ c ∈ text, (c == '\n') = false) :
    (behind before).PointsAt text (before ++ (text ++ rest)) := by
  cases hrest : splitWhen (· == '\n') rest with
  | nil => exact absurd hrest (splitWhen_ne_nil _ rest)
  | cons w ws =>
    obtain ⟨above, tail, hlines, -, hline, hcolumn⟩ :=
      exists_lines before (splitWhen_append h hrest)
    have habove : (behind before).line - 1 = above.length := by omega
    refine ⟨Nat.succ_pos _, tail ++ (text ++ w), ?_, ?_⟩
    · rw [hlines, habove]
      simp
    · rw [← hcolumn, List.drop_left]
      exact List.prefix_append text w

/-- **Where a text stands.** The position that is found for a text without a line feed that stands
somewhere in a source is a place where it stands. -/
theorem pointsAt_ofQuoted (h : ∀ c ∈ text, (c == '\n') = false) (hin : text <:+: source) :
    (ofQuoted text source).PointsAt text source := by
  unfold ofQuoted
  -- either a pair of equal quotes was found on a line, or the text itself was looked for
  split
  · rename_i pos hpos
    obtain ⟨i, line, hline, hnumber, hprefix⟩ := of_quoted? hpos
    refine ⟨by omega, line, ?_, hprefix⟩
    rw [hnumber, Nat.add_sub_cancel_left]
    exact hline
  · obtain ⟨⟨before, rest⟩, hcut⟩ := Option.isSome_iff_exists.mp (cutChars?_isSome.mpr hin)
    simp only [hcut]
    rw [eq_append_of_cutChars? hcut, List.append_assoc]
    exact pointsAt_behind h

/-- The numbers of a position at which a text stands are not larger than the source. -/
theorem PointsAt.le_length (h : pos.PointsAt text source) (ht : text ≠ []) :
    pos.line ≤ source.length ∧ pos.column < source.length := by
  obtain ⟨hpos, line, hline, hprefix⟩ := h
  have hlength := length_splitWhen (· == '\n') source
  have hfits := countP_add_length_le (List.mem_of_getElem? hline)
  have hindex : pos.line - 1 < (splitWhen (· == '\n') source).length :=
    (List.getElem?_eq_some_iff.mp hline).1
  have hcolumn := hprefix.length_le
  have := List.length_pos_iff.mpr ht
  rw [List.length_drop] at hcolumn
  omega

end Position
end Text

/-! ## The order of the scan -/

namespace Script.ImportScan

variable {f g : Found} {fs acc : List Found}

/-- Everything that the scan takes for a specifier, with its place. -/
def found (source : List Char) : List Found :=
  statementsFrom 0 0 true source ++ callsFrom 0 0 false source

theorem insertFound_pairwise (h : fs.Pairwise (·.start ≤ ·.start)) :
    (insertFound f fs).Pairwise (·.start ≤ ·.start) := by
  induction fs with
  | nil => exact List.pairwise_singleton _ f
  | cons g r ih =>
    obtain ⟨hg, hr⟩ := List.pairwise_cons.mp h
    rw [insertFound]
    split
    · rename_i hle
      refine List.pairwise_cons.mpr ⟨fun k hk => ?_, ih hr⟩
      rcases mem_insertFound.mp hk with rfl | hk
      · exact hle
      · exact hg k hk
    · rename_i hlt
      refine List.pairwise_cons.mpr ⟨fun k hk => ?_, h⟩
      rcases List.mem_cons.mp hk with rfl | hk
      · omega
      · have := hg k hk
        omega

theorem foldl_insertFound_pairwise (h : acc.Pairwise (·.start ≤ ·.start)) :
    (fs.foldl (fun acc f => insertFound f acc) acc).Pairwise (·.start ≤ ·.start) := by
  induction fs generalizing acc with
  | nil => exact h
  | cons f r ih => exact ih (insertFound_pairwise h)

/-- Leaving out what was there before changes no first member. -/
theorem find?_firsts (p : String → Bool) (xs : List String) :
    (Text.firsts xs).find? p = xs.find? p := by
  induction xs with
  | nil => rfl
  | cons x r ih =>
    rw [Text.firsts, List.find?_cons, List.find?_cons]
    cases hx : p x with
    | true => rfl
    | false =>
      have hsame : (fun y => decide ((!(y == x)) = true ∧ p y = true)) = p := by
        funext y
        by_cases hy : y = x
        · simp [hy, hx]
        · simp [hy]
      rw [List.find?_filter, hsame]
      exact ih

/-- **The first specifier in the order of the source.** Among the specifiers with a property, the
one that is listed first stands in front of all others. -/
theorem exists_of_find?_specifiers {source : List Char} {p : String → Bool} {specifier : String}
    (h : (specifiers source).find? p = some specifier) :
    ∃ f ∈ found source, String.ofList f.specifier = specifier ∧
      ∀ g ∈ found source, g.start < f.start → p (String.ofList g.specifier) = false := by
  simp only [specifiers, find?_firsts, List.find?_map, Option.map_eq_some_iff] at h
  obtain ⟨f, hfind, hspecifier⟩ := h
  obtain ⟨-, front, behind, hsorted, hfront⟩ := List.find?_eq_some_iff_append.mp hfind
  have hpairwise : (front ++ f :: behind).Pairwise (·.start ≤ ·.start) :=
    hsorted ▸ foldl_insertFound_pairwise List.Pairwise.nil
  have hmem : ∀ g, g ∈ front ++ f :: behind ↔ g ∈ found source := fun g => by
    rw [← hsorted, mem_foldl_insertFound]
    simp [found]
  refine ⟨f, (hmem f).mp (by simp), hspecifier, fun g hg hlt => ?_⟩
  -- what stands in front of `f` was looked at before it, and what comes later starts later
  obtain ⟨-, hbehind, -⟩ := List.pairwise_append.mp hpairwise
  rcases List.mem_append.mp ((hmem g).mpr hg) with hg | hg
  · simpa using hfront g hg
  · rcases List.mem_cons.mp hg with rfl | hg
    · omega
    · have := (List.pairwise_cons.mp hbehind).1 g hg
      omega

/-- What the scan has found stands at its place, and is one piece of a line. -/
theorem stands_of_mem_found {source : List Char} (h : f ∈ found source) :
    f.specifier <+: source.drop f.start ∧ f.specifier ≠ [] ∧
      ∀ c ∈ f.specifier, (c == '\n') = false := by
  have hstands : ∀ {pre lead v rest : List Char}, source = pre ++ (lead ++ v) →
      Quoted v f.specifier rest → f.start = pre.length + lead.length + 1 →
      f.specifier <+: source.drop f.start ∧ f.specifier ≠ [] ∧
        ∀ c ∈ f.specifier, (c == '\n') = false := by
    rintro pre lead v rest rfl hquoted hstart
    generalize f.specifier = specifier at hquoted
    obtain ⟨-, -, hne, hplain⟩ := hquoted
    refine ⟨?_, hne, fun c hc => by simpa using (hplain c hc).2⟩
    rw [hstart, ← List.append_assoc, ← List.length_append, ← List.drop_drop, List.drop_left]
    exact List.prefix_append _ _
  rcases List.mem_append.mp h with h | h
  · rw [statementsFrom_eq_scan] at h
    obtain ⟨pre, v, stop, hsource, hv⟩ := exists_of_mem_scan h
    obtain ⟨lead, t, rfl, -, ⟨rest, hquoted⟩, hstart, -⟩ := opening?_sound hv
    exact hstands hsource hquoted (by omega)
  · rw [callsFrom_eq_scan] at h
    obtain ⟨pre, v, stop, hsource, hv⟩ := exists_of_mem_scan h
    rw [tryCall] at hv
    split at hv
    · cases hv
    · rename_i hword
      have hword : before Text.isWord false pre = false := Bool.eq_false_iff.mpr hword
      obtain ⟨lead, t, blanks, tail, rfl, hlead, hquoted, hblanks⟩ := call?_sound hv hword
      have hcall := call?_eq_some (0 + pre.length) hlead hquoted hblanks
      have hfound := (Prod.mk.inj (Option.some.inj (hv.symm.trans hcall))).1
      refine hstands hsource hquoted ?_
      rw [hfound]
      show 0 + pre.length + lead.length + 1 = _
      omega

end Script.ImportScan

/-! ## The report -/

open Script

variable {table : ImportTable}

/-- **The first import that is not allowed is what is reported.** If the table does not allow one of
the specifiers in a source, no module comes of the source, whatever else is wrong with it: the error
names a specifier that the table does not allow and in front of which it allows all others, and ends
with the list of what is allowed. At the error's position stands this specifier. -/
theorem denied_first (limit : Nat) {source : String}
    (h : ∃ s ∈ ImportScan.specifiers source.toList, table.isAllowed s = false) :
    ∃ e f, transpile table limit source = .error e ∧
      f ∈ ImportScan.found source.toList ∧ f.specifier <+: source.toList.drop f.start ∧
      table.isAllowed (String.ofList f.specifier) = false ∧
      (∀ g ∈ ImportScan.found source.toList, g.start < f.start →
        table.isAllowed (String.ofList g.specifier) = true) ∧
      (ImportScan.specifiers source.toList).find? (fun s => !table.isAllowed s) =
        some (String.ofList f.specifier) ∧
      e.message = "Module \"" ++ String.ofList f.specifier ++
        "\" is not available in the playground. Available modules: " ++ table.allowedList ∧
      Text.Position.PointsAt ⟨e.line, e.column⟩ f.specifier source.toList ∧
      e.line ≤ source.length ∧ e.column < source.length := by
  obtain ⟨s, hs, hdenied⟩ := h
  have hsome : ((ImportScan.specifiers source.toList).find? fun s => !table.isAllowed s).isSome =
      true := List.find?_isSome.mpr ⟨s, hs, by simp [hdenied]⟩
  obtain ⟨specifier, hfind⟩ := Option.isSome_iff_exists.mp hsome
  obtain ⟨f, hf, rfl, hfirst⟩ := ImportScan.exists_of_find?_specifiers hfind
  obtain ⟨hstands, hne, hline⟩ := ImportScan.stands_of_mem_found hf
  have hin : f.specifier <:+: source.toList :=
    hstands.isInfix.trans (List.drop_suffix _ _).isInfix
  have hpoint := Text.Position.pointsAt_ofQuoted hline hin
  have hsmall := hpoint.le_length hne
  rw [String.length_toList] at hsmall
  refine ⟨SourceError.denied table source.toList (String.ofList f.specifier), f, ?_, hf, hstands,
    by simpa using List.find?_some hfind, fun g hg hlt => by simpa using hfirst g hg hlt, hfind,
    rfl, ?_, ?_⟩
  · simp only [transpile, hfind]
  · simpa [SourceError.denied] using hpoint
  · simpa [SourceError.denied] using hsmall

/-- The source is no module, the quotes of its import are different, and a character outside of
ASCII stands in front of it. -/
theorem denied_first_between_different_quotes :
    let table := (ImportTable.empty "https://esm.sh").packageWithSubpaths "react" "19.1.0"
    let source := "import \"react\";\nlet é = \x7d; import pad from 'left-pad\"; import(\"react\""
    transpile table 5 source =
        .error ⟨"Module \"left-pad\" is not available in the playground. " ++
          "Available modules: react", 2, 28⟩ ∧
      Text.Position.PointsAt ⟨2, 28⟩ "left-pad".toList source.toList := by
  intro table source
  have hspecifiers : ImportScan.specifiers source.toList = ["react", "left-pad"] := by
    decide +kernel
  have hdenied : table.isAllowed "left-pad" = false := by decide +kernel
  have hreact : table.isAllowed "react" = true := by decide +kernel
  have hfirst : (ImportScan.specifiers source.toList).find? (fun s => !table.isAllowed s) =
      some "left-pad" := by
    rw [hspecifiers]
    simp [hreact, hdenied]
  have herror : SourceError.denied table source.toList "left-pad" =
      ⟨"Module \"left-pad\" is not available in the playground. " ++
        "Available modules: react", 2, 28⟩ := by
    decide +kernel
  have hsome : ∃ s ∈ ImportScan.specifiers source.toList, table.isAllowed s = false :=
    ⟨"left-pad", by simp [hspecifiers], hdenied⟩
  obtain ⟨e, f, htranspile, -, -, -, -, hfind, -, hpoint, -⟩ := denied_first 5 hsome
  have hname : String.ofList f.specifier = "left-pad" :=
    Option.some.inj (hfind.symm.trans hfirst)
  obtain rfl : SourceError.denied table source.toList "left-pad" = e := by
    simpa only [transpile, hfirst, Except.error.injEq] using htranspile
  rw [herror] at htranspile hpoint
  rw [← String.toList_inj, String.toList_ofList] at hname
  exact ⟨htranspile, hname ▸ hpoint⟩

end LivePreview
