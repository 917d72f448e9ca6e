import LivePreview.Url.Address
import LivePreview.Url.Domain
/-!
# Hosts

A host is a domain, or a numeric address of either version. A domain whose last part is a number
must be an address, and an address of the sixth version stands in brackets.
-/

namespace LivePreview.Url

/-- What is wrong with a URL. -/
inductive Fault where
  /-- There is no scheme in front. -/
  | relative
  | emptyHost
  | port
  | ipv4
  | ipv6
  /-- The domain is none. -/
  | domain
  /-- A host of an unknown scheme has a character that no host may have. -/
  | hostCharacter
deriving DecidableEq, Repr

/-- The text that is shown. -/
def Fault.message : Fault → String
  | relative => "relative URL without a base"
  | emptyHost => "empty host"
  | port => "invalid port number"
  | ipv4 => "invalid IPv4 address"
  | ipv6 => "invalid IPv6 address"
  | domain => "invalid international domain name"
  | hostCharacter => "invalid domain character"

/-- A host. -/
inductive Host where
  | domain (name : String)
  | ipv4 (address : Nat)
  | ipv6 (pieces : List Nat)
deriving DecidableEq, Repr

namespace Host

/-- A host as it stands in a URL. -/
def text : Host → String
  | domain name => name
  | ipv4 address => Ipv4.text address
  | ipv6 pieces => "[" ++ Ipv6.text pieces ++ "]"

/-- Reads an address in brackets. -/
def bracketed (s : List Char) : Except Fault Host :=
  match s.getLast?, Ipv6.parse? s.dropLast with
  | some ']', some pieces => .ok (ipv6 pieces)
  | _, _ => .error .ipv6

/-- The host of a domain that is written in ASCII. -/
def ofAscii (name : List Char) : Except Fault Host :=
  if name = [] then .error .emptyHost
  else if Ipv4.endsInNumber name then
    match Ipv4.parse? name with
    | some address => .ok (ipv4 address)
    | none => .error .ipv4
  else .ok (domain (String.ofList name))

/-- Reads a host of a known scheme. -/
def parse (s : List Char) : Except Fault Host :=
  match s with
  | '[' :: r => bracketed r
  | s =>
    match (Percent.decode? s).bind Domain.toAscii? with
    | some name => ofAscii name
    | none => .error .domain

/-- The characters that no host may have. -/
def forbidden : List Char :=
  [Char.ofNat 0, '\t', '\n', '\r', ' ', '#', '/', ':', '<', '>', '?', '@', '[', '\\', ']', '^', '|']

/-- Reads a host of an unknown scheme, which is taken as it is. -/
def parseOpaque (s : List Char) : Except Fault Host :=
  match s with
  | '[' :: r => bracketed r
  | s =>
    if s.any forbidden.contains then .error .hostCharacter
    else .ok (domain (String.ofList (Percent.encode [] s)))

end Host

end LivePreview.Url
