import LivePreview.Proofs.ImportScan
import LivePreview.Proofs.Specifiers
import LivePreview.Proofs.TableLookup
import LivePreview.Transpile
/-!
# The import gate

A source becomes a module only if the table allows every specifier that the scan finds in it. The
specifiers of the module come from the tree, and the scan does not read the tree: what is `Written`
in the way the scan knows has passed the gate, and nothing is known about the rest
(`specifiers_of_transpile`). The module that is loaded has the specifiers of the lowered tree, each
in its place, and only packages without a URL are replaced; one of these that has passed the gate is
allowed by a prefix of the table (`prefix_of_fallback`).
-/
namespace LivePreview

open Script Script.Specifiers

namespace ImportTable

variable {t : ImportTable} {specifier : String}

/-- **What is allowed but loaded from its fallback URL is allowed by a prefix.** -/
theorem prefix_of_fallback (hallowed : t.isAllowed specifier = true)
    (hfallback : (t.fallback? specifier).isSome = true) :
    ∃ p ∈ t.prefixes, Text.startsWith p specifier = true := by
  have hresolve : t.resolve? specifier = none := by
    unfold fallback? at hfallback
    split at hfallback
    · rename_i h
      exact Option.isNone_iff_eq_none.mp (Bool.and_eq_true_iff.mp h).2
    · cases hfallback
  obtain ⟨hentry, hlongest⟩ := resolve?_eq_none hresolve
  simpa [isAllowed, hentry, hlongest] using hallowed

end ImportTable

variable {table : ImportTable} {limit : Nat} {source : String} {out : Transpiled}

/-- What a module that is let through was checked for, and how its code came about. -/
theorem transpile_eq_ok (h : transpile table limit source = .ok out) :
    out.declaredImports = ImportScan.specifiers source.toList ∧
      (∀ s ∈ out.declaredImports, table.isAllowed s = true) ∧
      compileSource table limit source.toList = .ok out.code := by
  simp only [transpile] at h
  split at h
  · cases h
  · rename_i hfind
    split at h
    · rename_i code hcode
      cases h
      refine ⟨rfl, fun s hs => ?_, hcode⟩
      simpa using List.find?_eq_none.mp hfind s hs
    · cases h

/-- The specifiers in the code of a source are those of its lowered tree, with packages that the
table does not resolve pointed at their fallback URLs. -/
theorem compileSource_eq_ok {chars : List Char} {code : String}
    (h : compileSource table limit chars = .ok code) :
    ∃ parsed items pointed, Source.parse true chars = .ok parsed ∧ parsed.lower = .ok items ∧
      code = LoopGuard.prelude ++ printModule pointed ∧
      ofStmts pointed = (ofStmts items).map (target table.fallback?) := by
  cases hparse : Source.parse true chars with
  | error d => simp [compileSource, hparse, bind, Except.bind] at h
  | ok parsed =>
    cases hlower : parsed.lower with
    | error d => simp [compileSource, hparse, hlower, bind, Except.bind] at h
    | ok items =>
      simp only [compileSource, hparse, hlower, bind, Except.bind, pure, Except.pure,
        Except.ok.injEq] at h
      refine ⟨parsed, items, _, rfl, hlower, h.symm, ?_⟩
      rw [(ofStmts_replace _ _).1, ofStmts_guardModule]

/-- **The gate.** In a module that is let through, each specifier of the source that is written in
the way the scan knows is allowed, and what else the scan takes for one is too. The code has the
specifiers of the lowered tree, in their places. One that gives way to its fallback URL there has
passed the gate, and a prefix of the table allows it, or it is not written in that way. -/
theorem specifiers_of_transpile (h : transpile table limit source = .ok out) :
    (∀ s, ImportScan.Written source.toList s.toList → s ∈ out.declaredImports) ∧
      (∀ s ∈ out.declaredImports,
        ImportScan.Occurs source.toList s.toList ∧ table.isAllowed s = true) ∧
      ∃ parsed items pointed, Source.parse true source.toList = .ok parsed ∧
        parsed.lower = .ok items ∧ out.code = LoopGuard.prelude ++ printModule pointed ∧
        (∀ s ∈ ofStmts parsed.items,
          ImportScan.Written source.toList s.toList → table.isAllowed s = true) ∧
        ofStmts pointed = (ofStmts items).map (target table.fallback?) ∧
        ∀ s ∈ ofStmts items, (table.fallback? s).isSome = true →
          ImportScan.Written source.toList s.toList →
            s ∈ out.declaredImports ∧ ∃ p ∈ table.prefixes, Text.startsWith p s = true := by
  obtain ⟨hdeclared, hallowed, hcode⟩ := transpile_eq_ok h
  have hseen : ∀ s, ImportScan.Written source.toList s.toList → s ∈ out.declaredImports := by
    intro s hs
    rw [hdeclared]
    exact ImportScan.mem_specifiers_of_written hs
  have hfound : ∀ s ∈ out.declaredImports,
      ImportScan.Occurs source.toList s.toList ∧ table.isAllowed s = true := by
    intro s hs
    exact ⟨ImportScan.occurs_of_mem_specifiers (hdeclared ▸ hs), hallowed s hs⟩
  obtain ⟨parsed, items, pointed, hparse, hlower, hprint, hpointed⟩ := compileSource_eq_ok hcode
  refine ⟨hseen, hfound, parsed, items, pointed, hparse, hlower, hprint, ?_, hpointed, ?_⟩
  · intro s _ hs
    exact hallowed s (hseen s hs)
  · intro s _ hfallback hs
    exact ⟨hseen s hs, ImportTable.prefix_of_fallback (hallowed s (hseen s hs)) hfallback⟩

/-- A package passes the gate that only a prefix allows. -/
theorem specifiers_of_allowed_prefix :
    let table := (ImportTable.empty "https://esm.sh").allowPrefix "left-"
    let source := "import pad from \"left-pad\";\npad();"
    ∃ out, transpile table 5 source = .ok out ∧
      ImportScan.Written source.toList "left-pad".toList ∧
      "left-pad" ∈ out.declaredImports ∧ table.isAllowed "left-pad" = true ∧
      ∃ items pointed, out.code = LoopGuard.prelude ++ printModule pointed ∧
        ofStmts pointed = (ofStmts items).map (target table.fallback?) := by
  intro table source
  have hclause : ImportScan.Clause ("pad ".toList ++ (['f', 'r', 'o', 'm'] ++ [' '])) :=
    .source (List.all_eq_true.mp (by decide)) rfl (List.all_eq_true.mp (by decide))
  have hlead : ImportScan.Lead ([] ++ ("import".toList ++ ([' '] ++
      ("pad ".toList ++ (['f', 'r', 'o', 'm'] ++ [' ']))))) :=
    .intro (by simp) (.inl rfl) (by simp) (List.all_eq_true.mp (by decide)) hclause
  have hquoted : ImportScan.Quoted ('"' :: ("left-pad".toList ++ '"' :: ";\npad();".toList))
      "left-pad".toList ";\npad();".toList :=
    .intro rfl rfl (by decide) (by simp [ImportScan.isQuote])
  have hsource : source.toList = [] ++ (([] ++ ("import".toList ++ ([' '] ++
      ("pad ".toList ++ (['f', 'r', 'o', 'm'] ++ [' ']))))) ++
        '"' :: ("left-pad".toList ++ '"' :: ";\npad();".toList)) := by
    decide +kernel
  have hwritten : ImportScan.Written source.toList "left-pad".toList :=
    .line hsource rfl hlead hquoted
  have hok : (transpile table 5 source).toOption.isSome = true := by decide +kernel
  cases h : transpile table 5 source with
  | error e =>
    rw [h] at hok
    cases hok
  | ok out =>
    obtain ⟨hseen, hfound, parsed, items, pointed, -, -, hprint, -, hpointed, -⟩ :=
      specifiers_of_transpile h
    exact ⟨out, rfl, hwritten, hseen _ hwritten, (hfound _ (hseen _ hwritten)).2, items, pointed,
      hprint, hpointed⟩

/-- The scan does not know comments: it misses an import with one in front of `from`, and a package
that is not allowed is loaded from its fallback URL. -/
theorem specifiers_of_commented_import :
    let table := (ImportTable.empty "https://esm.sh").packageWithSubpaths "react" "19.1.0"
    let source := "import pad /* left */ from \"left-pad\";\npad();"
    let code := "let __loopGuard = 0;\nimport pad from \"https://esm.sh/left-pad\";\npad();\n"
    (transpile table 100000 source).toOption = some ⟨code, [], ["left-pad"]⟩ ∧
      ((Source.parse true source.toList).toOption.map fun parsed => ofStmts parsed.items) =
        some ["left-pad"] ∧
      table.isAllowed "left-pad" = false := by
  intro table source code
  obtain ⟨chars, hchars, hdeclared, hlines, hwords, hparse⟩ : ∃ chars, source.toList = chars ∧
      ImportScan.specifiers chars = [] ∧
      (compiledLines table 100000 chars).toOption = some code ∧
      Text.firsts ((Candidates.literals chars).flatMap fun l => Text.words (String.ofList l)) =
        ["left-pad"] ∧
      ((Source.parse true chars).toOption.map fun parsed => ofStmts parsed.items) =
        some ["left-pad"] :=
    ⟨_, String.toList_ofList, by decide +kernel, by decide +kernel, by decide +kernel,
      by decide +kernel⟩
  have hcandidates : Candidates.ofSource source = ["left-pad"] := by
    rw [Candidates.ofSource, hchars, hwords]
  have hend : code.toList.getLast? = some '\n' := by rw [String.toList_ofList]; rfl
  have htranspile :=
    transpile_of_lines hchars hdeclared rfl hlines (by rw [hend]; decide) hcandidates
  rw [htranspile, hchars]
  exact ⟨rfl, hparse, by decide +kernel⟩

end LivePreview
