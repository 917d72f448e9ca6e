import LivePreview.Style.Utility.Layout
import LivePreview.Style.Utility.Spacing
import LivePreview.Style.Utility.Typography
import LivePreview.Style.Utility.Surface
import LivePreview.Style.Utility.Motion
/-!
# The utility of a class

The families of utilities in the order in which they are tried; the first one that knows the class
counts.
-/

namespace LivePreview.Style

/-- The families of utilities. -/
def Utility.families (names : Value.Names) : List (String → Option Utility) :=
  [display?, inset?, zIndex?, overflow?, appearance?, flex?, grid?, align?, gap?, between?,
    padding?,
   sizing?, typography?, color? names, border? names, radius? names, ring? names, shadow?, opacity?,
   interaction?, outline? names, transform?, filter?, transition?, animation?, enterExit?,
   drawing? names]

/-- The utility of a class without variants, in a theme that publishes the given names. -/
def utility? (names : Value.Names) (c : String) : Option Utility :=
  (Utility.families names).findSome? fun family => family c

end LivePreview.Style
