import LivePreview.Url.Host
/-!
# URLs of the web

A URL of the web has a host and a path; a user, a port, a query and a fragment may come along. A
port that is the usual one of its scheme is left out.
-/

namespace LivePreview

/-- A URL with a host and a hierarchical path. -/
structure Url where
  scheme : String
  /-- The user with a password, as they stand in front of the host. -/
  user : Option String
  host : Url.Host
  port : Option Nat
  /-- The segments of the path; there is at least one, which may be empty. -/
  path : List String
  query : Option String
  fragment : Option String
deriving DecidableEq, Repr

namespace Url

/-- A text behind a mark, if there is one. -/
def marked (mark : String) (s : Option String) : String :=
  match s with
  | some s => mark ++ s
  | none => ""

/-- The URL as a text. -/
def text (u : Url) : String :=
  u.scheme ++ "://" ++ (match u.user with | some s => s ++ "@" | none => "") ++ u.host.text ++
    marked ":" (u.port.map toString) ++ String.join (u.path.map ("/" ++ ·)) ++ marked "?" u.query ++
    marked "#" u.fragment

end Url

end LivePreview
