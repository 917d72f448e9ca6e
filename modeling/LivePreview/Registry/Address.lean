import LivePreview.Error
import LivePreview.Text.Blank
import LivePreview.Url.Parser
/-!
# Addresses of registries

A document of a registry is fetched from a public host over the web. Hosts that are the machine
itself, in its own network, or without a meaning outside of it are refused.
-/

namespace LivePreview.Registry.Address

/-- Whether a domain is the machine itself or in its own network. -/
def isLocalDomain (name : String) : Bool :=
  let name := Text.toAsciiLower (Text.trim name)
  name == "localhost" || Text.endsWith ".local" name

/-- Whether an address of the fourth version is not public. -/
def isPrivateIpv4 (address : Nat) : Bool :=
  match Url.Ipv4.octets address with
  | a :: b :: _ =>
    a == 0 || a == 127 || a == 10 || (a == 192 && b == 168) || (a == 169 && b == 254) ||
      (a == 172 && 16 ≤ b && b ≤ 31)
  | _ => false

/-- The address of the fourth version that one of the sixth stands for. -/
def mapped? (pieces : List Nat) : Option Nat :=
  match pieces with
  | [0, 0, 0, 0, 0, 65535, high, low] => some (high * 65536 + low)
  | _ => none

/-- Whether an address of the sixth version is not public. -/
def isPrivateIpv6 (pieces : List Nat) : Bool :=
  match mapped? pieces with
  | some address => isPrivateIpv4 address
  | none =>
    let first := pieces.headD 0
    pieces == [0, 0, 0, 0, 0, 0, 0, 1] || pieces == [0, 0, 0, 0, 0, 0, 0, 0] ||
      first / 512 == 126 || first / 64 == 1018

/-- Whether a host is not public. -/
def isPrivate : Url.Host → Bool
  | .domain name => isLocalDomain name
  | .ipv4 address => isPrivateIpv4 address
  | .ipv6 pieces => isPrivateIpv6 pieces

/-- The URL of a document, if it may be fetched. -/
def validate (raw : String) : Except PreviewError Url :=
  match Url.parse (Text.trim raw) with
  | .error fault => .error (.invalidUrl raw fault.message)
  | .ok (.elsewhere scheme) => .error (.invalidUrl raw ("unsupported scheme '" ++ scheme ++ "'"))
  | .ok (.web u) =>
    if u.scheme ≠ "http" ∧ u.scheme ≠ "https" then
      .error (.invalidUrl raw ("unsupported scheme '" ++ u.scheme ++ "'"))
    else if isPrivate u.host then .error (.privateHost u.host.text)
    else .ok u

end LivePreview.Registry.Address
