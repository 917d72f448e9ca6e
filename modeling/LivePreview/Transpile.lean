import LivePreview.Candidates
import LivePreview.Imports.Table
import LivePreview.Script.ImportScan
import LivePreview.Script.LoopGuard
import LivePreview.Script.Lowering
import LivePreview.Script.Printer
import LivePreview.Script.Specifiers
import LivePreview.Text.Position
/-!
# From a component's source to a module

The imports of a source are checked against the import table first. Then the source is parsed and
lowered, its loops get guards, and packages that the table does not resolve are imported from their
fallback URLs. The class name candidates come from the source as it is.
-/

namespace LivePreview

/-- A module ready to be loaded. -/
structure Transpiled where
  code : String
  declaredImports : List String
  classCandidates : List String
deriving DecidableEq, Repr

/-- What is wrong with a source, and where. A line or a column that is not below `2 ^ 32` does not
fit into the word of 32 bits that an error is read back with. -/
structure SourceError where
  message : String
  line : Nat
  column : Nat
deriving DecidableEq, Repr

namespace Transpiled

def toJson (t : Transpiled) : Json :=
  .obj [("code", .str t.code), ("declaredImports", .ofStrings t.declaredImports),
    ("classCandidates", .ofStrings t.classCandidates)]

def ofJson? (j : Json) : Option Transpiled := do
  let r ← j.record? ["code", "declaredImports", "classCandidates"]
  return {
    code := ← r.required "code" Json.str?
    declaredImports := ← r.required "declaredImports" (Json.list? Json.str?)
    classCandidates := ← r.required "classCandidates" (Json.list? Json.str?) }

end Transpiled

namespace SourceError

def toJson (e : SourceError) : Json :=
  .obj [("message", .str e.message), ("line", .ofNat e.line), ("column", .ofNat e.column)]

def ofJson? (j : Json) : Option SourceError := do
  let r ← j.record? ["message", "line", "column"]
  return {
    message := ← r.required "message" Json.str?
    line := ← r.required "line" Json.word32?
    column := ← r.required "column" Json.word32? }

/-- The position before the text. -/
def display (e : SourceError) : String :=
  toString e.line ++ ":" ++ toString e.column ++ ": " ++ e.message

/-- A diagnostic of a source. -/
def ofDiagnostic (source : List Char) (d : Script.Diagnostic) : SourceError :=
  let p := Text.Position.atChar source d.offset
  ⟨d.cause.message, p.line, p.column⟩

/-- An import that is not allowed. -/
def denied (table : ImportTable) (source : List Char) (specifier : String) : SourceError :=
  let p := Text.Position.ofQuoted specifier.toList source
  { message := "Module \"" ++ specifier ++
      "\" is not available in the playground. Available modules: " ++
      table.allowedList
    line := p.line
    column := p.column }

end SourceError

/-- The code for a source. -/
def compileSource (table : ImportTable) (loopLimit : Nat) (source : List Char) :
    Except Script.Diagnostic String := do
  let items ← (← Script.Source.parse true source).lower
  let (guarded, _) := Script.LoopGuard.guardModule loopLimit items
  let (pointed, _) := Script.Specifiers.replace table.fallback? guarded
  return Script.LoopGuard.prelude ++ Script.printModule pointed

/-- The module for a source, or what is wrong with it. -/
def transpile (table : ImportTable) (loopLimit : Nat) (source : String) :
    Except SourceError Transpiled :=
  let chars := source.toList
  let declared := Script.ImportScan.specifiers chars
  match declared.find? fun s => !table.isAllowed s with
  | some specifier => .error (SourceError.denied table chars specifier)
  | none =>
    match compileSource table loopLimit chars with
    | .ok code => .ok ⟨code, declared, Candidates.ofSource source⟩
    | .error d => .error (SourceError.ofDiagnostic chars d)

/-- The code for a source, before what ends it is looked at. -/
def compiledLines (table : ImportTable) (loopLimit : Nat) (source : List Char) :
    Except Script.Diagnostic String := do
  let items ← (← Script.Source.parse true source).lower
  let (guarded, _) := Script.LoopGuard.guardModule loopLimit items
  let (pointed, _) := Script.Specifiers.replace table.fallback? guarded
  return Script.LoopGuard.prelude ++ Script.Printer.lines pointed

section
variable {table : ImportTable} {loopLimit : Nat} {chars : List Char} {code : String}

theorem compileSource_of_lines (h : (compiledLines table loopLimit chars).toOption = some code)
    (hend : code.toList.getLast? ≠ some ' ') :
    compileSource table loopLimit chars = .ok code := by
  cases hparse : Script.Source.parse true chars with
  | error d => simp [compiledLines, hparse, bind, Except.bind, Except.toOption] at h
  | ok parsed =>
    cases hlower : parsed.lower with
    | error d => simp [compiledLines, hparse, hlower, bind, Except.bind, Except.toOption] at h
    | ok items =>
      simp only [compiledLines, hparse, hlower, bind, Except.bind, pure, Except.pure,
        Except.toOption, Option.some.injEq] at h
      simp only [compileSource, hparse, hlower, bind, Except.bind, pure, Except.pure, ← h]
      rw [Script.printModule_of_lines rfl]
      intro hblank
      refine hend ?_
      rw [← h, String.toList_append, List.getLast?_append, hblank, Option.some_or]

/-- What a source becomes that is let through, from its characters. -/
theorem transpile_of_lines {source : String} {declared words : List String}
    (hsource : source.toList = chars) (hdeclared : Script.ImportScan.specifiers chars = declared)
    (hallowed : declared.all table.isAllowed = true)
    (hlines : (compiledLines table loopLimit chars).toOption = some code)
    (hend : code.toList.getLast? ≠ some ' ') (hcandidates : Candidates.ofSource source = words) :
    transpile table loopLimit source = .ok ⟨code, declared, words⟩ := by
  have hnone : declared.find? (fun s => !table.isAllowed s) = none := by simpa using hallowed
  simp only [transpile, hsource, hdeclared, hnone, compileSource_of_lines hlines hend, hcandidates]

end

/-- The code of a plain module in which packages that the table does not resolve are imported from
their fallback URLs; code without such an import, or with an error, stays as it is. -/
def ImportTable.applyFallbacks (table : ImportTable) (code : String) : String :=
  match Script.Source.parse false code.toList with
  | .error _ => code
  | .ok source =>
    match Script.Specifiers.replace table.fallback? source.items with
    | (_, 0) => code
    | (items, _) => Script.printModule items

end LivePreview
