/-
Which addresses may be downloaded from.

Only public hosts are reached, over `https` only: no address of the own machine or
network, no internal name, no service that answers with an address spelled in the
name, and no name that spells a blocked address.
* `Ipv4.blockReason?`, `Ipv6.blockReason?` and `Domain.blockReason?` say why a host
  is refused;
* `Url.guard` reads an address and refuses it for one of these reasons.
-/
import Scaffold.Error
import Scaffold.Text.Blank
import Scaffold.Text.Case
import Scaffold.Url

namespace Scaffold.Url

open Text

/-- Why an address of four bytes is refused. -/
def Ipv4.blockReason? (a : Ipv4) : Option String :=
  match a.bytes with
  | [a, b, c, d] =>
    if a = 127 then some "loopback addresses are not allowed"
    else if a = 10 ∨ (a = 172 ∧ 16 ≤ b ∧ b < 32) ∨ (a = 192 ∧ b = 168) then
      some "private network addresses are not allowed"
    else if a = 169 ∧ b = 254 then some "link-local addresses are not allowed"
    else if (a = 255 ∧ b = 255 ∧ c = 255 ∧ d = 255) ∨ (224 ≤ a ∧ a < 240) then
      some "broadcast and multicast addresses are not allowed"
    else if a = 0 then some "unspecified addresses are not allowed"
    else if a = 100 ∧ 64 ≤ b ∧ b < 128 then some "carrier-grade NAT addresses are not allowed"
    else none
  | _ => none

/-- Why an address of eight words is refused. -/
def Ipv6.blockReason? (a : Ipv6) : Option String :=
  match a.mapped? with
  | some b => b.blockReason?
  | none =>
    let words := a.toList
    let first := words.headD 0
    if words = [0, 0, 0, 0, 0, 0, 0, 1] then some "loopback addresses are not allowed"
    else if words = [0, 0, 0, 0, 0, 0, 0, 0] then some "unspecified addresses are not allowed"
    else if first / 0x200 = 0xFC00 / 0x200 then some "unique local addresses are not allowed"
    else if first / 0x40 = 0xFE80 / 0x40 then some "link-local addresses are not allowed"
    else if first / 0x100 = 0xFF then some "multicast addresses are not allowed"
    else none

namespace Domain

/-- Services that answer with an address spelled in the name. -/
def rebindingServices : List String :=
  ["nip.io", "sslip.io", "xip.io", "localtest.me", "lvh.me", "vcap.me", "lacolhost.com", "1u.ms",
    "rbndr.us"]

/-- Ends of names that are only known inside a network. -/
def internalEndings : List String :=
  [".localhost", ".local", ".internal", ".localdomain"]

/-- Four labels in a row. -/
def windows : List (List Char) → List (List (List Char))
  | a :: b :: c :: d :: rest => [a, b, c, d] :: windows (b :: c :: d :: rest)
  | _ => []

/-- The first address that a name spells: four labels in a row, or else one label
with hyphens. -/
def embedded? (name : List Char) : Option Ipv4 :=
  let labels := splitOn '.' name
  ((windows labels).findSome? fun w => Ipv4.ofDotted? (join ['.'] w)).or
    (labels.findSome? fun label => Ipv4.ofDotted? (replaceChar '-' ['.'] label))

/-- Why a name is refused. -/
def blockReason? (name : List Char) : Option String :=
  let name := asciiLower (dropEndWhile (· == '.') name)
  if name = "localhost".toList || internalEndings.any fun e => endsWith e.toList name then
    some "internal host names are not allowed"
  else
    match rebindingServices.find? fun service =>
        name = service.toList || endsWith ('.' :: service.toList) name with
    | some service => some s!"DNS rebinding service '{service}' is not allowed"
    | none => do
      let a ← embedded? name
      let reason ← a.blockReason?
      return s!"host name embeds {String.ofList a.text}: {reason}"

end Domain

/-- Why a host is refused. -/
def Host.blockReason? : Host → Option String
  | domain name => Domain.blockReason? name
  | ipv4 a => a.blockReason?
  | ipv6 a => a.blockReason?

/-- The address of a text, if it may be downloaded from. -/
def guard (text : String) : Except Violation Url :=
  match read (String.ofList (trim text.toList)) with
  | .error f => .error (.invalidUrl text f.message)
  | .ok (.other _) => .error (.unsafeUrl text "only HTTPS URLs are allowed")
  | .ok (.https u) =>
    match u.host.blockReason? with
    | some reason => .error (.unsafeUrl text reason)
    | none => .ok u

end Scaffold.Url
