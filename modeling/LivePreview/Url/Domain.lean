import LivePreview.Text.Blank
import LivePreview.Text.Canonical
import LivePreview.Text.Search
import LivePreview.Url.Domain.Allowed
import LivePreview.Url.Domain.Joining
import LivePreview.Url.Domain.Mapping
import LivePreview.Url.Domain.Punycode
/-!
# Domains

A domain is a list of labels between dots. However it is spelled, it has one form in ASCII: each
character is replaced by its image, the result is composed, and a label with characters beyond ASCII
is written by a code behind a mark. A label that is written so already must be written as this
library would.
-/

namespace LivePreview.Url.Domain

/-- Whether all of a text is ASCII. -/
def isAscii (s : List Char) : Bool := s.all fun c => c.toNat < 128

/-- What stands in front of a label that is written by a code. -/
def codeMark : List Char := "xn--".toList

/-- The one spelling of a text. -/
def spelling (s : List Char) : List Char := Text.canonical (s.flatMap image)

/-- The label that a label behind the mark stands for; any other label stands for itself. The code
of nothing, of ASCII alone, of another spelling or of the mark is refused. -/
def readLabel? (label : List Char) : Option (List Char) :=
  match Text.afterChars? codeMark label with
  | some code =>
    if code = [] then none
    else
      (Punycode.decode? code).filter fun s =>
        !isAscii s && spelling s == s && (Text.afterChars? codeMark s).isNone
  | none => some label

/-- Whether a label holds allowed characters only, does not start with a mark, and has joiners only
where they matter. -/
def isValid (label : List Char) : Bool :=
  label.all isAllowed && (label.head?.all fun c => !Text.isMark c) && joinersMatter [] label

/-- The form of a label in ASCII. -/
def writeLabel (label : List Char) : List Char :=
  if isAscii label then label else codeMark ++ Punycode.encode label

/-- The form of a domain in ASCII, if it is a domain. -/
def toAscii? (s : List Char) : Option (List Char) :=
  ((Text.splitWhen (· == '.') (spelling s)).mapM readLabel?).bind fun labels =>
    if labels.all isValid && (!labels.any runsLeft || labels.all runsOneWay) then
      some (['.'].intercalate (labels.map writeLabel))
    else none

end LivePreview.Url.Domain
