import LivePreview.Proofs.ImportScan
/-!
# Sources that are made of headers

A source with nothing but imports and exports of other modules, each where the scan looks for one,
is scanned exactly: the specifiers are those of its headers, in their order and each once
(`specifiers_of_headers`). No header runs on into the next one, whatever stands between its word and
its specifier, and none is found within another one.

The scan passes over what stands between two headers (`scan_of_nothing`), finds a header where it
opens, and goes on behind its closing quote (`scan_of_found`).
-/
namespace LivePreview.Script.ImportScan

/-! ## Headers -/

/-- What may stand between two headers. -/
def isGapChar (c : Char) : Bool := Text.isBlank c || c == ';'

/-- An import or export of another module, with what stands between it and the one before. -/
structure Header where
  gap : List Char
  indent : List Char
  word : List Char
  blanks : List Char
  clause : List Char
  quote : Char
  specifier : List Char
  gap_char : ∀ c ∈ gap, isGapChar c = true
  indent_char : ∀ c ∈ indent, c = ' ' ∨ c = '\t'
  isWord : IsWord word
  blanks_ne : blanks ≠ []
  blanks_char : ∀ c ∈ blanks, Text.isBlank c = true
  isClause : Clause clause
  isQuote : isQuote quote = true
  specifier_ne : specifier ≠ []
  specifier_char : ∀ c ∈ specifier, ImportScan.isQuote c = false ∧ c ≠ '\n' ∧ c ≠ '('

namespace Header

/-- What stands in front of the specifier. -/
def lead (h : Header) : List Char := h.indent ++ (h.word ++ (h.blanks ++ h.clause))

/-- The specifier with its quotes. -/
def quoted (h : Header) : List Char := h.quote :: (h.specifier ++ [h.quote])

/-- A header with the space in front of it. -/
def text (h : Header) : List Char := h.gap ++ (h.lead ++ h.quoted)

/-- A header opens a line, or a semicolon stands in front of it; `first` tells whether there is
nothing in front of its gap. -/
def Opens (first : Bool) (h : Header) : Prop :=
  before (fun c => c == '\n' || c == ';') first h.gap = true

end Header

/-- The source that consists of some headers; behind the last one there is some more space. -/
def source (headers : List Header) (space : List Char) : List Char :=
  headers.flatMap Header.text ++ space

/-- Each header stands where the scan looks for one. -/
def Placed (first : Bool) : List Header → Prop
  | [] => True
  | h :: rest => h.Opens first ∧ Placed false rest

variable {start? : Nat → Bool → List Char → Option (Found × Nat)} {flag : Char → Bool}
  {s t u v w gap lead rest : List Char} {d : Char} {offset : Nat} {a first : Bool} {f : Found}
  {h : Header}

theorem Header.isLead (h : Header) : Lead h.lead :=
  .intro h.indent_char h.isWord h.blanks_ne h.blanks_char h.isClause

theorem Header.isQuoted (h : Header) (rest : List Char) :
    Quoted (h.quoted ++ rest) h.specifier rest := by
  have hquoted : h.quoted ++ rest = h.quote :: (h.specifier ++ h.quote :: rest) := by
    simp [Header.quoted]
  rw [hquoted]
  exact .intro h.isQuote h.isQuote h.specifier_ne fun c hc =>
    ⟨(h.specifier_char c hc).1, (h.specifier_char c hc).2.1⟩

@[simp] theorem Header.length_quoted (h : Header) : h.quoted.length = h.specifier.length + 2 := by
  simp [Header.quoted]

@[simp] theorem Header.length_text (h : Header) :
    h.text.length = h.gap.length + (h.lead.length + (h.specifier.length + 2)) := by
  simp [Header.text]

/-! ## Between headers -/

/-- A lead has a letter that stands in no gap, and only spaces and tabs in front of it. -/
theorem Lead.exists_letter (h : Lead lead) :
    ∃ indent c tail, lead = indent ++ c :: tail ∧ isGapChar c = false ∧
      ∀ c ∈ indent, c = ' ' ∨ c = '\t' := by
  obtain ⟨hindent, hword, -, -, -⟩ := h
  rcases hword with rfl | rfl
  · exact ⟨_, 'i', _, rfl, by decide, hindent⟩
  · exact ⟨_, 'e', _, rfl, by decide, hindent⟩

/-- A text that starts with a gap starts with no lead, unless the gap is all spaces and tabs. -/
theorem Lead.ne_gap (h : Lead lead) (hgap : ∀ c ∈ gap, isGapChar c = true)
    (hd : isGapChar d = true) (hspace : d ≠ ' ') (htab : d ≠ '\t') :
    lead ++ v ≠ gap ++ d :: rest := by
  obtain ⟨indent, c, tail, rfl, hc, hindent⟩ := h.exists_letter
  intro heq
  rw [List.append_assoc] at heq
  rcases List.append_eq_append_iff.mp heq with ⟨x, rfl, hx⟩ | ⟨x, rfl, hx⟩
  · -- the letter stands in the gap
    cases x with
    | nil =>
      obtain ⟨rfl, -⟩ := List.cons.inj hx
      simp [hc] at hd
    | cons e x =>
      obtain ⟨rfl, -⟩ := List.cons.inj hx
      have hletter := hgap c (by simp)
      simp [hc] at hletter
  · -- the end of the gap stands in front of the letter
    cases x with
    | nil =>
      obtain ⟨rfl, -⟩ := List.cons.inj hx
      simp [hc] at hd
    | cons e x =>
      obtain ⟨rfl, -⟩ := List.cons.inj hx
      rcases hindent d (by simp) with hd | hd
      · exact hspace hd
      · exact htab hd

theorem Lead.ne_of_gap (h : Lead lead) (hgap : ∀ c ∈ gap, isGapChar c = true) :
    lead ++ v ≠ gap := by
  obtain ⟨indent, c, tail, rfl, hc, -⟩ := h.exists_letter
  rintro rfl
  have hletter := hgap c (by simp)
  simp [hc] at hletter

/-- No statement starts where there is no lead. -/
theorem statement?_eq_none (h : ∀ lead v, Lead lead → lead ++ v ≠ t) :
    statement? offset t = none := by
  cases hfound : statement? offset t with
  | none => rfl
  | some p =>
    obtain ⟨lead, v, ht, hlead, -⟩ := statement?_sound hfound
    exact absurd ht.symm (h lead v hlead)

theorem opening?_eq_none {c : Char} {r : List Char}
    (hline : ∀ lead v, Lead lead → lead ++ v ≠ c :: r)
    (hsemicolon : c = ';' → ∀ lead v, Lead lead → lead ++ v ≠ r) :
    opening? offset a (c :: r) = none := by
  have hhere : (if a then statement? offset (c :: r) else none) = none := by
    rw [statement?_eq_none hline, ite_self]
  have hnext : (if c == ';' then statement? (offset + 1) r else none) = none := by
    split
    · rename_i hc
      exact statement?_eq_none (hsemicolon (eq_of_beq hc))
    · rfl
  rw [opening?, hhere, hnext]
  rfl

/-- Nothing opens within a gap: at most its last character is the semicolon of a header. -/
theorem opening?_gap (gap : List Char) (hgap : ∀ c ∈ gap, isGapChar c = true)
    (hd : d = '\n' ∨ d = ';') (hlast : gap = [] → d = '\n') :
    opening? offset a (gap ++ d :: rest) = none := by
  have hnot : ∀ {gap : List Char}, (∀ c ∈ gap, isGapChar c = true) →
      ∀ lead v, Lead lead → lead ++ v ≠ gap ++ d :: rest := by
    intro gap hgap lead v hlead
    refine hlead.ne_gap hgap ?_ ?_ ?_ <;> rcases hd with rfl | rfl <;> decide
  cases gap with
  | nil =>
    obtain rfl := hlast rfl
    exact opening?_eq_none (hnot hgap) fun h => absurd h (by decide)
  | cons c gap =>
    exact opening?_eq_none (hnot hgap) fun _ => hnot fun e he => hgap e (List.mem_cons_of_mem c he)

theorem opening?_space (hgap : ∀ c ∈ gap, isGapChar c = true) : opening? offset a gap = none := by
  cases gap with
  | nil => rfl
  | cons c gap =>
    exact opening?_eq_none (fun _ _ hlead => hlead.ne_of_gap hgap)
      fun _ _ _ hlead => hlead.ne_of_gap fun e he => hgap e (List.mem_cons_of_mem c he)

/-! ## Scanning a text piece by piece -/

/-- The scan passes over a piece in which nothing starts. -/
theorem scan_of_nothing (offset : Nat) (a : Bool)
    (h : ∀ u v offset a, w = u ++ v → v ≠ [] → start? offset a (v ++ rest) = none) :
    scan start? flag 0 offset a (w ++ rest) =
      scan start? flag 0 (offset + w.length) (before flag a w) rest := by
  induction w generalizing offset a with
  | nil => rfl
  | cons c w ih =>
    have hhere : start? offset a (c :: (w ++ rest)) = none :=
      h [] (c :: w) offset a rfl (by simp)
    have hrest := ih (offset + 1) (flag c) fun u v offset a hw hv =>
      h (c :: u) v offset a (by rw [hw, List.cons_append]) hv
    rw [List.cons_append, scan, hhere, before_cons, List.length_cons, Nat.add_comm w.length,
      ← Nat.add_assoc]
    exact hrest

/-- The scan passes over what belongs to a find. -/
theorem scan_skip (w : List Char) :
    scan start? flag w.length offset a (w ++ rest) =
      scan start? flag 0 (offset + w.length) (before flag a w) rest := by
  induction w generalizing offset a with
  | nil => rfl
  | cons c w ih =>
    rw [List.cons_append, List.length_cons, scan, ih, before_cons, Nat.add_assoc,
      Nat.add_comm 1 w.length]

/-- What starts a text is found, and the scan goes on behind it. -/
theorem scan_of_found (hw : w ≠ [])
    (h : start? offset a (w ++ rest) = some (f, offset + w.length)) :
    scan start? flag 0 offset a (w ++ rest) =
      f :: scan start? flag 0 (offset + w.length) (before flag a w) rest := by
  cases w with
  | nil => exact absurd rfl hw
  | cons c w =>
    have hskip : offset + (c :: w).length - offset - 1 = w.length := by
      rw [List.length_cons]
      omega
    rw [List.cons_append] at h ⊢
    rw [scan, h]
    dsimp only
    rw [hskip, scan_skip, before_cons, List.length_cons, Nat.add_assoc, Nat.add_comm 1 w.length]

/-! ## Scanning headers -/

/-- What stands behind a lead is found, and the scan goes on behind its closing quote. -/
theorem scan_lead (hlead : StatementLead u lead) (h : Header) (offset : Nat) (rest : List Char) :
    scan opening? (· == '\n') 0 offset (before (· == '\n') true u) (lead ++ h.quoted ++ rest) =
      ⟨offset + lead.length + 1, h.specifier⟩ ::
        scan opening? (· == '\n') 0 (offset + (lead ++ h.quoted).length) false rest := by
  have hfound := opening?_eq_some offset hlead (h.isQuoted rest)
  have hlength : offset + lead.length + h.specifier.length + 2 =
      offset + (lead ++ h.quoted).length := by
    rw [List.length_append, h.length_quoted]
    omega
  have hquote : h.quote ≠ '\n' := by
    intro heq
    have := h.isQuote
    rw [heq] at this
    cases this
  have hbefore : ∀ a, before (· == '\n') a (lead ++ h.quoted) = false := by
    simp [before, Header.quoted, List.getLast?_cons, hquote]
  rw [hlength, ← List.append_assoc] at hfound
  rw [scan_of_found (by simp [Header.quoted]) hfound, hbefore]

theorem scan_gap (hgap : ∀ c ∈ gap, isGapChar c = true) (hd : d = '\n' ∨ d = ';')
    (rest : List Char) :
    scan opening? (· == '\n') 0 offset a (gap ++ d :: rest) =
      scan opening? (· == '\n') 0 (offset + gap.length) (before (· == '\n') a gap)
        (d :: rest) := by
  refine scan_of_nothing offset a fun u v offset a hw hv => ?_
  exact opening?_gap v (fun c hc => hgap c (hw ▸ List.mem_append_right u hc)) hd
    fun h => absurd h hv

/-- A header is found where it opens, and the scan goes on behind its closing quote. -/
theorem scan_header (offset : Nat) (hopens : h.Opens first) (ha : first = true → a = true)
    (rest : List Char) :
    ∃ f : Found, f.specifier = h.specifier ∧ offset ≤ f.start ∧ f.start ≤ offset + h.text.length ∧
      scan opening? (· == '\n') 0 offset a (h.text ++ rest) =
        f :: scan opening? (· == '\n') 0 (offset + h.text.length) false rest := by
  rw [Header.Opens] at hopens
  rcases List.eq_nil_or_concat h.gap with hgap | ⟨gap, d, hgap⟩
  · rw [hgap] at hopens
    obtain rfl := ha hopens
    have hscan := scan_lead (u := []) (.line rfl h.isLead) h offset rest
    rw [Header.text, hgap, List.nil_append]
    refine ⟨⟨offset + h.lead.length + 1, h.specifier⟩, rfl, ?_, ?_, hscan⟩
    all_goals
      simp only [List.length_append, Header.length_quoted]
      omega
  · rw [List.concat_eq_append] at hgap
    have hchars : ∀ c ∈ gap, isGapChar c = true := fun c hc => h.gap_char c (by simp [hgap, hc])
    have hd : d = '\n' ∨ d = ';' := by simpa [hgap, before] using hopens
    have htext : h.text ++ rest = gap ++ d :: (h.lead ++ h.quoted ++ rest) := by
      simp [Header.text, hgap]
    have hlength : h.text.length = gap.length + 1 + (h.lead ++ h.quoted).length := by
      simp [hgap]
    have hquoted := h.length_quoted
    rw [htext, scan_gap hchars hd, hlength, ← Nat.add_assoc, ← Nat.add_assoc]
    rw [List.length_append]
    rcases hd with rfl | rfl
    · -- the header opens the line behind the gap
      have hnone : opening? (offset + gap.length) (before (· == '\n') a gap)
          ('\n' :: (h.lead ++ h.quoted ++ rest)) = none :=
        opening?_gap [] (by simp) (.inl rfl) fun _ => rfl
      have hscan := scan_lead (u := []) (.line rfl h.isLead) h (offset + gap.length + 1) rest
      rw [List.length_append] at hscan
      rw [scan, hnone]
      refine ⟨⟨offset + gap.length + 1 + h.lead.length + 1, h.specifier⟩, rfl, ?_, ?_, hscan⟩
      all_goals
        dsimp only
        omega
    · -- the semicolon belongs to what is found
      obtain ⟨u, hu⟩ : ∃ u, before (· == '\n') true u = before (· == '\n') a gap := by
        cases before (· == '\n') a gap
        · exact ⟨[';'], rfl⟩
        · exact ⟨[], rfl⟩
      have hscan := scan_lead (u := u) (.semicolon h.isLead) h (offset + gap.length) rest
      have hend : offset + gap.length + (';' :: h.lead ++ h.quoted).length =
          offset + gap.length + 1 + (h.lead.length + h.quoted.length) := by
        simp only [List.length_append, List.length_cons]
        omega
      rw [hend, hu] at hscan
      refine ⟨⟨offset + gap.length + (';' :: h.lead).length + 1, h.specifier⟩, rfl, ?_, ?_, hscan⟩
      all_goals
        simp only [List.length_cons]
        omega

/-- The finds of the headers, and no others, in their order. -/
theorem scan_source {headers : List Header} {space : List Char} (offset : Nat) (a : Bool)
    (hplaced : Placed first headers) (ha : first = true → a = true)
    (hspace : ∀ c ∈ space, isGapChar c = true) :
    ∃ fs, scan opening? (· == '\n') 0 offset a (source headers space) = fs ∧
      fs.map Found.specifier = headers.map Header.specifier ∧
      (∀ f ∈ fs, offset ≤ f.start) ∧ fs.Pairwise fun f g => f.start ≤ g.start := by
  induction headers generalizing offset a first with
  | nil =>
    have hnone : ∀ u v offset a, space = u ++ v → v ≠ [] → opening? offset a (v ++ []) = none := by
      rintro u v offset a rfl -
      rw [List.append_nil]
      exact opening?_space fun c hc => hspace c (List.mem_append_right u hc)
    refine ⟨[], ?_, rfl, by simp, .nil⟩
    rw [source, List.flatMap_nil, List.nil_append, ← List.append_nil space,
      scan_of_nothing offset a hnone, scan]
  | cons h rest ih =>
    obtain ⟨hopens, hrest⟩ := hplaced
    obtain ⟨f, hf, hlow, hhigh, hscan⟩ := scan_header offset hopens ha (source rest space)
    obtain ⟨fs, hfs, hspecifiers, hlows, hsorted⟩ :=
      ih (offset + h.text.length) false hrest (by simp)
    refine ⟨f :: fs, ?_, by simp [hf, hspecifiers], ?_, ?_⟩
    · rw [source, List.flatMap_cons, List.append_assoc]
      rw [source] at hscan hfs
      rw [hscan, hfs]
    · intro g hg
      rcases List.mem_cons.mp hg with rfl | hg
      · exact hlow
      · exact Nat.le_trans (Nat.le_add_right ..) (hlows g hg)
    · exact List.pairwise_cons.mpr ⟨fun g hg => Nat.le_trans hhigh (hlows g hg), hsorted⟩

/-! ## Imports while running -/

/-- Without a parenthesis there is no import while running. -/
theorem callsFrom_eq_nil (h : '(' ∉ t) : callsFrom 0 offset false t = [] := by
  rw [callsFrom_eq_scan, List.eq_nil_iff_forall_not_mem]
  intro f hf
  obtain ⟨pre, v, stop, rfl, hv⟩ := exists_of_mem_scan hf
  rw [tryCall] at hv
  split at hv
  · cases hv
  · rename_i hword
    obtain ⟨lead, u, -, -, rfl, ⟨-, -, -⟩, -, -⟩ :=
      call?_sound (u := pre) hv (Bool.eq_false_iff.mpr hword)
    simp at h

theorem Clause.paren (h : Clause t) : '(' ∉ t := by
  cases h with
  | none => simp
  | @source bindings blanks hbindings _ hblanks =>
    intro hmem
    rcases List.mem_append.mp hmem with hmem | hmem
    · cases hbindings _ hmem
    · rcases List.mem_append.mp hmem with hmem | hmem
      · exact absurd hmem (by decide)
      · cases hblanks _ hmem

theorem Header.paren (h : Header) : '(' ∉ h.text := by
  intro hmem
  simp only [text, lead, quoted, List.mem_append, List.mem_cons (a := '('), List.not_mem_nil,
    or_false] at hmem
  rcases hmem with hmem | (hmem | hmem | hmem | hmem) | hmem | hmem | hmem
  · cases h.gap_char _ hmem
  · rcases h.indent_char _ hmem with hc | hc <;> cases hc
  · rcases h.isWord with hword | hword <;>
    · rw [hword] at hmem
      exact absurd hmem (by decide)
  · cases h.blanks_char _ hmem
  · exact h.isClause.paren hmem
  · cases hmem ▸ h.isQuote
  · exact (h.specifier_char _ hmem).2.2 rfl
  · cases hmem ▸ h.isQuote

/-! ## The order of the finds -/

theorem insertFound_of_le {fs : List Found} (h : ∀ g ∈ fs, g.start ≤ f.start) :
    insertFound f fs = fs ++ [f] := by
  induction fs with
  | nil => rfl
  | cons g fs ih =>
    rw [insertFound, if_pos (h g List.mem_cons_self),
      ih fun e he => h e (List.mem_cons_of_mem g he), List.cons_append]

/-- Finds that stand in their order stay in it. -/
theorem foldl_insertFound_of_sorted {acc fs : List Found}
    (h : (acc ++ fs).Pairwise fun f g => f.start ≤ g.start) :
    fs.foldl (fun acc f => insertFound f acc) acc = acc ++ fs := by
  induction fs generalizing acc with
  | nil => simp
  | cons f fs ih =>
    have hacc : ∀ g ∈ acc, g.start ≤ f.start := fun g hg =>
      (List.pairwise_append.mp h).2.2 g hg f List.mem_cons_self
    rw [List.foldl_cons, insertFound_of_le hacc, ih (by simpa using h), List.append_assoc,
      List.singleton_append]

/-- **Plain headers are scanned exactly.** Take any list of imports and exports of other modules:
the word of each is followed by white space, and then, if there are any, by bindings and `from`;
bindings are words, dollar signs, commas, braces, stars and white space, over as many lines as they
like, and the last of them does not run into `from`. The specifier stands in quotes of either kind
and is any text without quotes, line feeds and parentheses. Each opens a line or follows a
semicolon, with spaces and tabs in front. Then the specifiers of the source are those of the list in
their order, each once. -/
theorem specifiers_of_headers {headers : List Header} {space : List Char}
    (hplaced : Placed true headers) (hspace : ∀ c ∈ space, isGapChar c = true) :
    specifiers (source headers space) =
      Text.firsts (headers.map fun h => String.ofList h.specifier) := by
  obtain ⟨fs, hfs, hspecifiers, -, hsorted⟩ :=
    scan_source 0 true hplaced (fun _ => rfl) hspace
  have hparen : '(' ∉ source headers space := by
    intro hmem
    rcases List.mem_append.mp hmem with hmem | hmem
    · obtain ⟨h, -, hmem⟩ := List.mem_flatMap.mp hmem
      exact h.paren hmem
    · cases hspace _ hmem
  have hnames := congrArg (List.map String.ofList) hspecifiers
  rw [List.map_map, List.map_map] at hnames
  rw [← statementsFrom_eq_scan] at hfs
  rw [specifiers, hfs, callsFrom_eq_nil hparen, List.append_nil,
    foldl_insertFound_of_sorted (by simpa using hsorted), List.nil_append]
  exact congrArg Text.firsts hnames

/-- What is checked of each character of a text holds of all of them. -/
theorem forall_of_all {p : Char → Prop} [DecidablePred p] (h : s.all (fun c => p c) = true) :
    ∀ c ∈ s, p c := by
  simpa using h

/-- Bindings over several lines, one of which is called `from`, in front of an import without any,
an export of all and an import of the same module again. -/
theorem specifiers_of_headers_with_lines :
    specifiers
      ("import \x7b\n  from,\n  Card as $1\n\x7d from '@/card';import \"./a.css\"\n".toList ++
        " export * from\t\"clsx\" ;; \t import from from '@/card'\n".toList) =
      ["@/card", "./a.css", "clsx"] := by
  let card : Header :=
    ⟨[], [], "import".toList, [' '], "\x7b\n  from,\n  Card as $1\n\x7d from ".toList, '\'',
      "@/card".toList, forall_of_all rfl, forall_of_all rfl, .inl rfl, by decide,
      forall_of_all rfl,
      .source
        (forall_of_all rfl :
          ∀ c ∈ "\x7b\n  from,\n  Card as $1\n\x7d ".toList, isBindingChar c = true) rfl
        (forall_of_all rfl : ∀ c ∈ [' '], Text.isBlank c = true), rfl, by decide,
      forall_of_all rfl⟩
  let sheet : Header :=
    ⟨[';'], [], "import".toList, [' '], [], '"', "./a.css".toList, forall_of_all rfl,
      forall_of_all rfl, .inl rfl, by decide, forall_of_all rfl, .none, rfl, by decide,
      forall_of_all rfl⟩
  let all : Header :=
    ⟨['\n'], [' '], "export".toList, [' '], "* from\t".toList, '"', "clsx".toList,
      forall_of_all rfl, forall_of_all rfl, .inr rfl, by decide, forall_of_all rfl,
      .source (forall_of_all rfl : ∀ c ∈ "* ".toList, isBindingChar c = true) rfl
        (forall_of_all rfl : ∀ c ∈ ['\t'], Text.isBlank c = true), rfl, by decide,
      forall_of_all rfl⟩
  let again : Header :=
    ⟨" ;;".toList, " \t ".toList, "import".toList, [' '], "from from ".toList, '\'',
      "@/card".toList, forall_of_all rfl, forall_of_all rfl, .inl rfl, by decide,
      forall_of_all rfl,
      .source (forall_of_all rfl : ∀ c ∈ "from ".toList, isBindingChar c = true) rfl
        (forall_of_all rfl : ∀ c ∈ [' '], Text.isBlank c = true), rfl, by decide,
      forall_of_all rfl⟩
  have hscan : specifiers (source [card, sheet, all, again] ['\n']) =
      Text.firsts ["@/card", "./a.css", "clsx", "@/card"] :=
    specifiers_of_headers ⟨rfl, rfl, rfl, rfl, trivial⟩ (forall_of_all rfl)
  rw [String.toList_ofList, String.toList_ofList]
  exact hscan

end LivePreview.Script.ImportScan
