import LivePreview.Script.Lowering.Declarations
import LivePreview.Script.Lowering.Imports
import LivePreview.Script.Lowering.Markup
import LivePreview.Script.Lowering.Namespaces
import LivePreview.Script.Lowering.Pragmas
import LivePreview.Script.Parser.Module
/-!
# From typed sources with markup to plain modules

Namespaces become functions first. Then one rebuild turns markup into calls and declarations into
plain statements; at last the imports are settled and those that markup needs are added. The result
holds no markup, no type, no enumeration and no namespace.
-/

namespace LivePreview.Script

/-- The rebuild that lowers a module without namespaces. -/
def Lowering.rebuild : Rebuild (StateM Lowering) :=
  { Rebuild.keep with
    expr := Lowering.onMarkup
    member := Lowering.onMember
    item := Lowering.onItem }

/-- Lowers the items of a module, apart from its imports. -/
def Lowering.items (p : Pragmas) (items : Module) : Lower Module := do
  match p.fault? with
  | some cause => Lowering.report cause 0
  | none => pure ()
  Lowering.rebuild.onModule (← Lowering.onNamespaces items)

/-- The plain module for what a source holds, or the first thing that is wrong with it. -/
def Source.lower (source : Source) : Except Diagnostic Module :=
  let p := Pragmas.ofComments source.pragmas
  let (lowered, s) :=
    (Lowering.items p source.items).run (Lowering.initial source.names p.style)
  match s.diagnostics with
  | d :: _ => .error d
  | [] =>
    let settled := Lowering.settle (if s.sawMarkup then p.variableNames else []) lowered
    .ok (Lowering.insertImports (s.runtime.map Lowering.runtimeImport) settled)

end LivePreview.Script
