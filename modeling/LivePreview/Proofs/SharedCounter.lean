import LivePreview.Proofs.ImportGate
import LivePreview.Proofs.LoweredNames
/-!
# The counter of a module

A guard names the counter by its name alone. It counts in the variable that stands in front of the
module if that name is declared there once, and by no scope around a loop. The guards and the
fallback URLs bring no name into a module (`names_guarded`), so it depends on the lowered tree
whether that is so, and a source that does not use the name gives such a tree
(`counter_shared_iff`). A source that does use it may take the counter away from its guards, or
declare it once more, as a module does that went through once already.
-/
namespace LivePreview

open Script LoopGuard

namespace Script.LoopGuard

/-- The declaration of the counter, as a statement. -/
def declaration : Stmt := .declaration .block [.initialized (.name counter) (.number "0")]

theorem printModule_declaration : printModule [declaration] = prelude := by decide +kernel

/-- Behind the declaration of the counter, the module declares no other variable of that name, and
no scope around a loop does. -/
structure SharesCounter (items : Module) : Prop where
  once : (moduleNames (declaration :: items)).count counter = 1
  visible : ∀ site ∈ loopSites items, counter ∉ site.1

theorem moduleNames_declaration (items : Module) :
    moduleNames (declaration :: items) = counter :: moduleNames items := rfl

theorem sharesCounter_iff {items : Module} : SharesCounter items ↔
    counter ∉ moduleNames items ∧ ∀ site ∈ loopSites items, counter ∉ site.1 := by
  have honce : (moduleNames (declaration :: items)).count counter = 1 ↔
      counter ∉ moduleNames items := by
    rw [moduleNames_declaration, List.count_cons_self, Nat.add_eq_right, List.count_eq_zero]
  exact ⟨fun h => ⟨honce.mp h.once, h.visible⟩, fun h => ⟨honce.mpr h.1, h.2⟩⟩

/-- The module of which the code for a lowered tree is printed. -/
def guarded (table : ImportTable) (limit : Nat) (items : Module) : Module :=
  (Specifiers.replace table.fallback? (guardModule limit items).1).1

variable {table : ImportTable} {limit : Nat} {items : Module}

/-- Guards and fallback URLs leave the names of a module alone, and those around its loops. -/
theorem names_guarded (table : ImportTable) (limit : Nat) (items : Module) :
    moduleNames (guarded table limit items) = moduleNames (braced items) ∧
      (loopSites (guarded table limit items)).map Prod.fst =
        (loopSites (braced items)).map Prod.fst := by
  rw [guarded, Specifiers.replace_eq, guardModule_eq_braced]
  have hrelabel := Specifiers.keeps_relabel (Specifiers.target table.fallback?)
  constructor
  · rw [hrelabel.moduleNames_eq, (keeps_withCheck limit).moduleNames_eq]
  · rw [hrelabel.loopSites_eq, (keeps_withCheck limit).loopSites_eq, onSites, onSites,
      List.map_map, List.map_map]
    rfl

theorem relabel_check (g : String → String) (limit : Nat) :
    (Specifiers.relabel g).maps.stmt (check limit) = check limit := rfl

/-- Specifiers are replaced behind the check of a body. -/
theorem relabel_guardBody (g : String → String) (limit : Nat) (b : Stmt) :
    (Specifiers.relabel g).maps.stmt (guardBody limit b) =
      .block (check limit :: ((block? b).getD [b]).map (Specifiers.relabel g).maps.stmt) := by
  rw [guardBody_eq]
  refine ((Specifiers.plain_relabel g).stmt_eq _).trans (congrArg Stmt.block ?_)
  rw [List.map_cons, relabel_check]

/-- Every loop of the module is guarded. -/
theorem body_guarded {body : Stmt} (h : body ∈ loopBodies (guarded table limit items)) :
    ∃ rest, body = .block (check limit :: rest) := by
  have hrelabel := Specifiers.keeps_relabel (Specifiers.target table.fallback?)
  have hbodies : loopBodies (guarded table limit items) =
      (loopBodies (guardModule limit items).1).map
        (Specifiers.relabel (Specifiers.target table.fallback?)).maps.stmt := by
    rw [guarded, Specifiers.replace_eq, ← map_snd_loopSites, hrelabel.loopSites_eq, onSites,
      ← map_snd_loopSites, List.map_map, List.map_map]
    rfl
  rw [hbodies, loopBodies_guardModule, List.map_map] at h
  obtain ⟨b, -, rfl⟩ := List.mem_map.mp h
  exact ⟨_, relabel_guardBody _ limit _⟩

/-! ## Blocks -/

theorem lack_block? {c : String} {s : Stmt} (h : s.Lacks c) {ss : List Stmt}
    (hss : block? s = some ss) : Stmt.Lack c ss := by
  induction s using block?.induct with
  | case1 body =>
    obtain rfl := Option.some.inj hss
    exact h.parts
  | case2 cs s ih => exact ih (h.parts _ (.head _)) hss
  | case3 s hblock hcommented =>
    rw [block?.eq_3 s hblock hcommented] at hss
    cases hss

theorem lacks_asBlock {c : String} {s : Stmt} (h : s.Lacks c) : (asBlock s).Lacks c := by
  refine .of_parts ?_ rfl
  rw [asBlock]
  cases hss : block? s with
  | none => exact .cons h .nil
  | some ss => exact lack_block? h hss

/-- Blocks around bodies bring no name in. -/
theorem lack_braced {c : String} (h : Stmt.Lack c items) : Stmt.Lack c (braced items) := by
  have hkeeps : Rebuild.KeepsOut Outcome.value c (bodies (m := Id) asBlock) :=
    { expr := fun _ he => he
      member := fun _ hx => hx
      item := fun _ _ _ hs => .cons hs .nil
      binding := fun _ _ hx => hx
      stmt := fun s hs => by
        cases s with
        | forLoop init test update body =>
          obtain ⟨hfront, hbody⟩ := List.forall_mem_append.mp hs.parts
          exact .of_parts
            (.append hfront (.cons (lacks_asBlock (hbody _ (.head _))) .nil)) rfl
        | forIn | forOf =>
          have hbody := lacks_asBlock (hs.parts _ (.tail _ (.tail _ (.head _))))
          exact .of_parts (.cons (hs.parts _ (.head _))
            (.cons (hs.parts _ (.tail _ (.head _))) (.cons hbody .nil))) rfl
        | whileLoop test body =>
          exact .of_parts (.cons (hs.parts _ (.head _))
            (.cons (lacks_asBlock (hs.parts _ (.tail _ (.head _)))) .nil)) rfl
        | doWhile body test =>
          exact .of_parts (.cons (lacks_asBlock (hs.parts _ (.head _)))
            (.cons (hs.parts _ (.tail _ (.head _))) .nil)) rfl
        | _ => exact hs }
  exact hkeeps.onModule h

end Script.LoopGuard

variable {table : ImportTable} {limit : Nat} {source : String} {out : Transpiled}

/-- How the code of a source comes about. -/
theorem compileSource_eq_guarded {chars : List Char} {code : String}
    (h : compileSource table limit chars = .ok code) :
    ∃ parsed items, Source.parse true chars = .ok parsed ∧ parsed.lower = .ok items ∧
      code = prelude ++ printModule (guarded table limit items) := by
  cases hparse : Source.parse true chars with
  | error d => simp [compileSource, hparse, bind, Except.bind] at h
  | ok parsed =>
    cases hlower : parsed.lower with
    | error d => simp [compileSource, hparse, hlower, bind, Except.bind] at h
    | ok items =>
      simp only [compileSource, hparse, hlower, bind, Except.bind, pure, Except.pure,
        Except.ok.injEq] at h
      exact ⟨parsed, items, rfl, hlower, h.symm⟩

/-- **When the guards share the counter.** The code of a module that is let through declares the
counter in front of the guarded module, in which the body of every loop starts with a check. All
checks count in that variable, and it is declared once, exactly if the lowered tree neither declares
the name itself nor in a scope around a loop; and so it is if no variable of the source has the
name. -/
theorem counter_shared_iff (h : transpile table limit source = .ok out) :
    ∃ parsed items, Source.parse true source.toList = .ok parsed ∧ parsed.lower = .ok items ∧
      out.code = printModule [declaration] ++ printModule (guarded table limit items) ∧
      (∀ body ∈ loopBodies (guarded table limit items),
        ∃ rest, body = .block (check limit :: rest)) ∧
      (loopSites (guarded table limit items)).map Prod.snd =
        loopBodies (guarded table limit items) ∧
      (SharesCounter (guarded table limit items) ↔
        counter ∉ moduleNames (braced items) ∧
          ∀ site ∈ loopSites (braced items), counter ∉ site.1) ∧
      (counter ∉ parsed.variables → SharesCounter (guarded table limit items)) := by
  obtain ⟨-, -, hcode⟩ := transpile_eq_ok h
  obtain ⟨parsed, items, hparse, hlower, hout⟩ := compileSource_eq_guarded hcode
  obtain ⟨hmodule, hsites⟩ := names_guarded table limit items
  have hiff : SharesCounter (guarded table limit items) ↔ counter ∉ moduleNames (braced items) ∧
      ∀ site ∈ loopSites (braced items), counter ∉ site.1 := by
    rw [sharesCounter_iff, hmodule]
    refine and_congr_right fun _ => ?_
    have hforall : ∀ sites : List (List String × Stmt),
        (∀ site ∈ sites, counter ∉ site.1) ↔ ∀ names ∈ sites.map Prod.fst, counter ∉ names :=
      fun _ => (List.forall_mem_map (P := (counter ∉ ·))).symm
    rw [hforall, hforall, hsites]
  refine ⟨parsed, items, hparse, hlower, ?_, fun _ => body_guarded, map_snd_loopSites _, hiff,
    fun habsent => ?_⟩
  · rw [printModule_declaration, hout]
  · have hbraced := lack_braced (lack_of_lower uninvented_counter habsent hlower)
    exact hiff.mpr ⟨not_mem_moduleNames hbraced, not_mem_loopSites hbraced⟩

/-- A loop without an end, in a source that leaves the name alone. -/
theorem counter_shared_of_loop :
    let table := ImportTable.empty "https://esm.sh"
    let source := "while (true) {}"
    ∃ out items, transpile table 5 source = .ok out ∧
      out.code = printModule [declaration] ++ printModule (guarded table 5 items) ∧
      loopBodies (guarded table 5 items) ≠ [] ∧ SharesCounter (guarded table 5 items) := by
  intro table source
  have hok : (transpile table 5 source).toOption.isSome = true := by decide +kernel
  have hvariables : (Source.parse true source.toList).toOption.map Source.variables = some [] := by
    decide +kernel
  have hloops : ((Source.parse true source.toList).toOption.bind fun parsed =>
      parsed.lower.toOption.map fun items => (loopBodies (guarded table 5 items)).length) =
        some 1 := by
    decide +kernel
  cases h : transpile table 5 source with
  | error e =>
    rw [h] at hok
    cases hok
  | ok out =>
    obtain ⟨parsed, items, hparse, hlower, hcode, -, -, -, hshared⟩ := counter_shared_iff h
    rw [hparse] at hvariables hloops
    simp only [Except.toOption, Option.map_some, Option.some.injEq] at hvariables
    simp only [Except.toOption, hlower, Option.bind_some, Option.map_some,
      Option.some.injEq] at hloops
    refine ⟨out, items, rfl, hcode, fun hnone => ?_, hshared ?_⟩
    · rw [hnone] at hloops
      cases hloops
    · rw [hvariables]
      exact List.not_mem_nil

/-- The code for an empty source is the declaration of the counter, and behind one more of these it
is the code for itself. Around the loop of another source the name is declared by the loop. -/
theorem counter_declared_twice :
    let table := ImportTable.empty "https://esm.sh"
    let lowered (source : String) : Option Module :=
      (Source.parse true source.toList).toOption.bind fun parsed => parsed.lower.toOption
    (transpile table 5 "").toOption = some ⟨"let __loopGuard = 0;\n", [], []⟩ ∧
      (transpile table 5 "let __loopGuard = 0;\n").toOption =
        some ⟨"let __loopGuard = 0;\nlet __loopGuard = 0;\n", [], []⟩ ∧
      ((lowered "let __loopGuard = 0;\n").map fun items =>
        (moduleNames (declaration :: guarded table 5 items)).count counter) = some 2 ∧
      (transpile table 5 "for (let __loopGuard = 0;;) {}").toOption.isSome = true ∧
      ((lowered "for (let __loopGuard = 0;;) {}").map fun items =>
        (loopSites (guarded table 5 items)).map Prod.fst) = some [[counter]] := by
  decide +kernel

end LivePreview
