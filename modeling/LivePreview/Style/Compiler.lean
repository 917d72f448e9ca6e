import LivePreview.Style.Candidate
import LivePreview.Style.Selector
import LivePreview.Style.Theme
import LivePreview.Style.Utility
import LivePreview.Style.Variant
/-!
# From candidates to a stylesheet

A candidate whose class is a utility and whose variants are known becomes one rule; all others are
passed over in silence. The stylesheet is the theme's preamble followed by the rules, ordered by the
widths they ask for and then by their candidates, so it depends on the set of the candidates only.
-/

namespace LivePreview.Style

/-- The rule of a candidate. -/
structure Rule where
  selector : String
  declarations : List Declaration
  media : List String
  /-- The highest rank of the widths of screens that the rule asks for. -/
  rank : Nat
deriving DecidableEq, Repr

namespace Rule

/-- The rule as a line of the stylesheet. -/
def text (r : Rule) : String :=
  let body := ruleText r.selector r.declarations
  if r.media.isEmpty then "  " ++ body ++ "\n"
  else "  @media " ++ Text.joinWith " and " r.media ++ " \x7b " ++ body ++ " \x7d\n"

/-- The ranks of rules, from the lowest on. -/
def ranks : List Nat := 0 :: Variant.widths.map (·.2.1)

/-- Rules ordered by their ranks; within a rank they keep their order. -/
def byRank (rules : List Rule) : List Rule :=
  ranks.flatMap fun k => rules.filter fun r => r.rank = k

end Rule

/-- Makes the declarations important if asked for. -/
def markImportant (important : Bool) (declarations : List Declaration) : List Declaration :=
  if important then declarations.map fun d => (d.1, d.2 ++ " !important") else declarations

/-- What is needed to turn candidates into a stylesheet: a theme whose sheets are loaded. -/
structure Compiler where
  preamble : String
  names : Value.Names
  darkVariant : String

namespace Compiler

/-- The compiler of a theme; every sheet that the theme imports must be there. -/
def ofTheme (t : Theme) (sheets : Sheets) : Except PreviewError Compiler :=
  (t.preamble sheets).map fun preamble => ⟨preamble, t.names, t.darkVariant⟩

/-- The rule of a candidate. -/
def resolve? (c : Compiler) (candidate : String) : Option Rule := do
  let parsed ← Candidate.parse? candidate
  let utility ← utility? c.names parsed.base
  let scope ← Scope.ofVariants? c.darkVariant (Selector.ofClass candidate) parsed.variants
  return {
    selector := scope.selector ++ utility.child.getD ""
    declarations := markImportant parsed.important utility.declarations
    media := scope.media
    rank := scope.rank }

/-- The rules of a set of candidates in the order of the stylesheet. -/
def rules (c : Compiler) (candidates : List String) : List Rule :=
  Rule.byRank ((Text.ordered candidates).filterMap c.resolve?)

/-- The stylesheet of a set of candidates. -/
def build (c : Compiler) (candidates : List String) : String :=
  let rules := c.rules candidates
  c.preamble ++
    if rules.isEmpty then "" else layerText "utilities" (String.join (rules.map Rule.text))

end Compiler

end LivePreview.Style
