import LivePreview.Url.Basic
/-!
# Reading URLs

Blanks and control characters around a URL do not count, nor do tabs and line ends anywhere. A
scheme says how the rest is read. In the web's schemes any slashes and backslashes may stand in
front of the host, a backslash separates segments as a slash does, and segments of dots are
resolved. A URL of another scheme is only checked as far as its host and port go.
-/

namespace LivePreview.Url

/-! ## Schemes -/

/-- How URLs of a scheme are read. -/
inductive SchemeKind where
  /-- There is always a host. -/
  | web
  /-- There may be a host, and no port. -/
  | file
  /-- Nothing is known. -/
  | other
deriving DecidableEq, Repr

def schemeKind (scheme : String) : SchemeKind :=
  if ["http", "https", "ws", "wss", "ftp"].contains scheme then .web
  else if scheme = "file" then .file
  else .other

/-- The port that URLs of a scheme usually have. -/
def defaultPort? (scheme : String) : Option Nat :=
  if scheme = "http" ∨ scheme = "ws" then some 80
  else if scheme = "https" ∨ scheme = "wss" then some 443
  else if scheme = "ftp" then some 21
  else none

/-- Whether a character may stand in a scheme. -/
def isSchemePart (c : Char) : Bool :=
  Text.isAsciiLetter c || Text.isAsciiDigit c || c == '+' || c == '-' || c == '.'

/-- The scheme of a URL, and what follows its colon. -/
def scheme? (s : List Char) : Option (String × List Char) :=
  let (front, rest) := s.span isSchemePart
  match front, rest with
  | c :: _, ':' :: r =>
    if Text.isAsciiLetter c then some (String.ofList (front.map Text.asciiLower), r) else none
  | _, _ => none

/-! ## Before the path -/

/-- Whether the part of a URL with user, host and port ends at a character. -/
def endsAuthority (kind : SchemeKind) (c : Char) : Bool :=
  c == '/' || c == '?' || c == '#' || (kind == .web && c == '\\')

/-- A user with a password as they are written; an empty password loses its colon, and nothing is
left of both if they are empty. -/
def userText (s : List Char) : Option String :=
  let (name, rest) := s.span (· != ':')
  let name := Percent.encode Percent.userSet name
  let password := Percent.encode Percent.userSet (rest.drop 1)
  if name = [] ∧ password = [] then none
  else some (String.ofList (name ++ if password = [] then [] else ':' :: password))

/-- Cuts a text behind its last at sign. -/
def cutUser (s : List Char) : Option (List Char × List Char) :=
  (Text.cutChars? ['@'] s.reverse).map fun p => (p.2.reverse, p.1.reverse)

/-- Splits a text in front of the first colon that is not in brackets. -/
def cutPort (inside : Bool) : List Char → List Char × List Char
  | [] => ([], [])
  | c :: r =>
    if c = ':' ∧ !inside then ([], c :: r)
    else
      let p := cutPort (if c = '[' then true else if c = ']' then false else inside) r
      (c :: p.1, p.2)

/-- Reads a port up to its end or, in unknown schemes, up to a backslash; without digits there is
none. -/
def readPort (scheme : String) (s : List Char) : Except Fault (Option Nat) :=
  let digits := s.takeWhile (· ≠ '\\')
  match digits.mapM fun c => (Percent.hexValue? c).filter (· < 10) with
  | some ds =>
    let n := digitsValue 10 ds
    if 65536 ≤ n then .error .port
    else .ok (if ds = [] ∨ defaultPort? scheme = some n then none else some n)
  | none => .error .port

/-- User, host and port of a URL. -/
structure Authority where
  user : Option String
  host : Host
  port : Option Nat

/-- Reads a host that may be empty if nothing is known of the scheme. -/
def readHost (kind : SchemeKind) (s : List Char) : Except Fault Host :=
  if kind = .web then if s = [] then .error .emptyHost else Host.parse s
  else Host.parseOpaque s

/-- Reads what stands between the scheme and the path, where `isLast` tells whether the URL ends with
it. A host may only be empty if neither a user nor a port comes along, and no at sign alone in front
of a path, a query or a fragment. -/
def readAuthority (scheme : String) (kind : SchemeKind) (s : List Char) (isLast : Bool) :
    Except Fault Authority := do
  if s = ['@'] ∧ !isLast then throw .emptyHost
  let (user, rest) :=
    match cutUser s with
    | some (user, rest) => (some user, rest)
    | none => (none, s)
  let (name, behind) := cutPort false rest
  let host ← readHost kind name
  let user := user.bind userText
  if name = [] ∧ (behind ≠ [] ∨ user.isSome) then throw .emptyHost
  let port ← readPort scheme (behind.drop 1)
  return ⟨user, host, port⟩

/-! ## The path -/

/-- Whether a segment is a letter with a colon or a bar behind it, the name of a disk. -/
def isDisk (s : List Char) : Bool :=
  match s with
  | [c, d] => Text.isAsciiLetter c && (d == ':' || d == '|')
  | _ => false

/-- The spellings of a dot in a segment. -/
def dots : List String := [".", "%2e"]

/-- Whether a segment stands for the one that it is in. -/
def isSame (s : String) : Bool := dots.contains (Text.toAsciiLower s)

/-- Whether a segment stands for the one above. -/
def isAbove (s : String) : Bool :=
  (dots.flatMap fun a => dots.map (a ++ ·)).contains (Text.toAsciiLower s)

/-- Goes one segment up, but not above the name of a disk. -/
def parent (segments : List String) : List String :=
  match segments.getLast? with
  | some last => if isDisk last.toList then segments else segments.dropLast
  | none => []

/-- Resolves segments of dots; the segments in `above` stand in front. The last segment names the
thing itself, so dots at the end leave an empty one. -/
def resolveDots (above : List String) : List String → List String
  | [] => above
  | [s] =>
    if isAbove s then parent above ++ [""] else if isSame s then above ++ [""] else above ++ [s]
  | s :: r =>
    if isAbove s then resolveDots (parent above) r
    else if isSame s then resolveDots above r
    else resolveDots (above ++ [s]) r

/-- The path of a URL of the web. -/
def readPath (s : List Char) : List String :=
  let separated :=
    match s with
    | '/' :: r => r
    | '\\' :: r => r
    | s => s
  resolveDots []
    ((Text.splitWhen (fun c => c == '/' || c == '\\') separated).map fun segment =>
      String.ofList (Percent.encode Percent.pathSet segment))

/-! ## The whole -/

/-- Cuts a text at a mark that may be missing. -/
def cutAt (mark : Char) (s : List Char) : List Char × Option (List Char) :=
  match s.span (· != mark) with
  | (front, _ :: rest) => (front, some rest)
  | (front, []) => (front, none)

/-- What a URL turns out to be. -/
inductive Location where
  | web (u : Url)
  /-- A URL of a scheme without a host, or with one that is not looked at further. -/
  | elsewhere (scheme : String)
deriving DecidableEq, Repr

/-- Reads a URL with a host. -/
def webUrl (scheme : String) (s : List Char) : Except Fault Url := do
  let s := s.dropWhile fun c => c == '/' || c == '\\'
  let (front, rest) := s.span fun c => !endsAuthority .web c
  let a ← readAuthority scheme .web front rest.isEmpty
  let (rest, fragment) := cutAt '#' rest
  let (rest, query) := cutAt '?' rest
  let encoded (set : List Char) (s : List Char) := String.ofList (Percent.encode set s)
  return {
    scheme := scheme
    user := a.user
    host := a.host
    port := a.port
    path := readPath rest
    query := query.map (encoded Percent.querySet)
    fragment := fragment.map (encoded Percent.fragmentSet) }

/-- Checks the host of a file; the name of a disk is none. -/
def checkFile (s : List Char) : Except Fault Unit :=
  match s with
  | a :: b :: r =>
    let isSlash (c : Char) := c == '/' || c == '\\'
    let name := r.takeWhile fun c => !endsAuthority .web c
    if isSlash a && isSlash b && name ≠ [] && !isDisk name then (Host.parse name).map fun _ => ()
    else .ok ()
  | _ => .ok ()

/-- Checks a URL of an unknown scheme: behind two slashes there is a host. -/
def checkOther (scheme : String) (s : List Char) : Except Fault Unit :=
  match s with
  | '/' :: '/' :: r =>
    let (front, rest) := r.span fun c => !endsAuthority .other c
    (readAuthority scheme .other front rest.isEmpty).map fun _ => ()
  | _ => .ok ()

/-- Whether a character at the ends of a URL does not count. -/
def isPadding (c : Char) : Bool := c.toNat ≤ 32

/-- The characters of a text that count. -/
def significant (s : List Char) : List Char :=
  (((s.dropWhile isPadding).reverse.dropWhile isPadding).reverse).filter fun c =>
    c != '\t' && c != '\n' && c != '\r'

/-- Reads a URL. -/
def parse (s : String) : Except Fault Location :=
  match scheme? (significant s.toList) with
  | none => .error .relative
  | some (scheme, rest) =>
    match schemeKind scheme with
    | .web => (webUrl scheme rest).map .web
    | .file => (checkFile rest).map fun _ => .elsewhere scheme
    | .other => (checkOther scheme rest).map fun _ => .elsewhere scheme

end LivePreview.Url
