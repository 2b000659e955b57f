/-
Addresses of downloads.

`Url.read` reads an address. An `https` address is kept in its parts, and
`Url.text` writes it in plain spelling; of any other address only its scheme is
kept, after it was found to be well formed.
-/
import Scaffold.Text.Blank
import Scaffold.Url.Address
import Scaffold.Url.Domain
import Scaffold.Url.Escape

namespace Scaffold

open Text

namespace Url

/-- A host. -/
inductive Host where
  | domain (name : List Char)
  | ipv4 (address : Ipv4)
  | ipv6 (address : Ipv6)
  deriving Repr, DecidableEq

/-- The text of a host. -/
def Host.text : Host → List Char
  | domain name => name
  | ipv4 a => a.text
  | ipv6 a => '[' :: a.text ++ [']']

/-- What is wrong with an address. -/
inductive Fault where
  | noScheme
  | emptyHost
  | badDomain
  | badDomainCharacter
  | badIpv4
  | badIpv6
  | badPort
  deriving Repr, DecidableEq

/-- The text of a fault. -/
def Fault.message : Fault → String
  | noScheme => "relative URL without a base"
  | emptyHost => "empty host"
  | badDomain => "invalid international domain name"
  | badDomainCharacter => "invalid domain character"
  | badIpv4 => "invalid IPv4 address"
  | badIpv6 => "invalid IPv6 address"
  | badPort => "invalid port number"

end Url

/-- An `https` address. The user part, the path, the query and the fragment are
escaped; the user part has its `@`, and the path its slashes. -/
structure Url where
  user : List Char
  host : Url.Host
  port? : Option Nat
  path : List Char
  query? : Option (List Char)
  fragment? : Option (List Char)
  deriving Repr, DecidableEq

namespace Url

/-- The characters of an address. -/
def chars (u : Url) : List Char :=
  "https://".toList ++ u.user ++ u.host.text
    ++ ((u.port?.map fun n => ':' :: digits n).getD [])
    ++ u.path
    ++ ((u.query?.map fun q => '?' :: q).getD [])
    ++ ((u.fragment?.map fun f => '#' :: f).getD [])

/-- The text of an address. -/
def text (u : Url) : String :=
  String.ofList u.chars

/-! ### Schemes -/

/-- The families of schemes, which read the rest of an address in their own way. -/
inductive Family where
  /-- Addresses of hosts on the net. -/
  | web
  /-- Addresses of files. -/
  | file
  /-- All others. -/
  | other
  deriving Repr, DecidableEq

/-- The family of a scheme. -/
def Family.ofScheme (scheme : List Char) : Family :=
  if ["https", "http", "ws", "wss", "ftp"].contains (String.ofList scheme) then .web
  else if scheme = "file".toList then .file
  else .other

/-- The port that a scheme uses if none is given. -/
def defaultPort? (scheme : List Char) : Option Nat :=
  match String.ofList scheme with
  | "https" | "wss" => some 443
  | "http" | "ws" => some 80
  | "ftp" => some 21
  | _ => none

/-- A character of a scheme. -/
def isSchemeChar (c : Char) : Bool :=
  c.isAlphanum || c == '+' || c == '-' || c == '.'

/-- The scheme of an address in small letters, and what follows its colon. -/
def splitScheme? (cs : List Char) : Option (List Char × List Char) :=
  if cs.head?.any Char.isAlpha then
    match cs.dropWhile isSchemeChar with
    | ':' :: rest => some ((cs.takeWhile isSchemeChar).map Char.toLower, rest)
    | _ => none
  else none

/-! ### Hosts -/

/-- Whether a character ends the host and what belongs to it. -/
def endsAuthority (family : Family) (c : Char) : Bool :=
  c == '/' || c == '?' || c == '#' || (c == '\\' && family != .other)

/-- The host at the start of a text: up to a colon outside of brackets. -/
def hostText (isBracketed : Bool) : List Char → List Char
  | [] => []
  | c :: rest =>
    if c = ':' ∧ !isBracketed then []
    else c :: hostText (c == '[' || (isBracketed && c != ']')) rest

/-- An address between brackets. -/
def bracketedHost? (cs : List Char) : Option Host :=
  if cs.getLast? = some ']' then (Ipv6.read? (cs.drop 1).dropLast).map .ipv6 else none

/-- The host of a name or an address. -/
def readHost (cs : List Char) : Except Fault Host :=
  if cs.head? = some '[' then
    match bracketedHost? cs with
    | some host => .ok host
    | none => .error .badIpv6
  else
    match String.fromUTF8? (ByteArray.mk (unescape cs).toArray) with
    | none => .error .badDomain
    | some decoded =>
      match Domain.toAscii? decoded.toList with
      | none => .error .badDomain
      | some [] => .error .emptyHost
      | some ascii =>
        if Ipv4.endsInNumber ascii then
          match Ipv4.ofHost? ascii with
          | some a => .ok (.ipv4 a)
          | none => .error .badIpv4
        else .ok (.domain ascii)

/-- Checks the host of a scheme that is not known. -/
def checkOpaqueHost (cs : List Char) : Except Fault Unit :=
  if cs.head? = some '[' then
    if (bracketedHost? cs).isSome then .ok () else .error .badIpv6
  else if cs.any fun c => "\x00\t\n\r #/:<>?@[\\]^|".toList.contains c then
    .error .badDomainCharacter
  else .ok ()

/-- The number after the colon of a host. -/
def readPort (cs : List Char) : Except Fault (Option Nat) :=
  if cs.isEmpty then .ok none
  else match number? cs with
    | some n => if n < 0x10000 then .ok (some n) else .error .badPort
    | none => .error .badPort

/-! ### Users -/

/-- The user part of an address in front of its last `@`: a name, and a password
if one is given. -/
def userPart (cs : List Char) : List Char :=
  let escape := fun cs : List Char => cs.flatMap (escapeChar userSpecials)
  let body := match splitOnce ':' cs with
    | none => escape cs
    | some (name, []) => escape name
    | some (name, password) => escape name ++ ':' :: escape password
  if body.isEmpty then [] else body ++ ['@']

/-- The user part of what stands in front of the path, and the rest of it. -/
def splitUser (authority : List Char) : Option (List Char) × List Char :=
  match splitLast '@' authority with
  | none => (none, authority)
  | some (user, rest) => (some user, rest)

/-! ### Paths -/

/-- Whether a part of a path is a single point, in any spelling. -/
def isDot (part : List Char) : Bool :=
  [".", "%2e"].contains (String.ofList (part.map Char.toLower))

/-- Whether a part of a path is two points, in any spelling. -/
def isDoubleDot (part : List Char) : Bool :=
  ["..", "%2e.", ".%2e", "%2e%2e"].contains (String.ofList (part.map Char.toLower))

/-- Whether a part of a path is the letter of a drive, which stays. -/
def isDrive : List Char → Bool
  | [c, mark] => c.isAlpha && (mark == ':' || mark == '|')
  | _ => false

/-- The parts of a path without points, after `done` in reverse. -/
def resolveParts (done : List (List Char)) : List (List Char) → List (List Char)
  | [] => done.reverse
  | part :: rest =>
    let done' :=
      if isDoubleDot part then
        if done.head?.any isDrive then done else done.drop 1
      else if isDot part then done
      else part :: done
    match rest with
    | [] => if isDot part || isDoubleDot part then ([] :: done').reverse else done'.reverse
    | _ => resolveParts done' rest

/-- A path that starts with a slash, with points resolved. -/
def pathOf (cs : List Char) : List Char :=
  let body := match cs with
    | '/' :: rest | '\\' :: rest => rest
    | _ => cs
  let parts := splitBy (fun c => c == '/' || c == '\\') body
  '/' :: join ['/'] (resolveParts [] (parts.map fun p => p.flatMap (escapeChar pathSpecials)))

/-! ### Addresses -/

/-- An `https` address, or the scheme of another one. -/
inductive Reading where
  | https (u : Url)
  | other (scheme : String)
  deriving Repr, DecidableEq

/-- The host of an authority, and what follows a colon behind it. -/
def splitPort (authority : List Char) : List Char × List Char :=
  let host := hostText false authority
  (host, authority.drop (host.length + 1))

/-- Reads an address of the net after its scheme and its slashes. -/
def readWeb (scheme rest : List Char) : Except Fault Url := do
  let authority := rest.takeWhile (!endsAuthority .web ·)
  let tail := rest.dropWhile (!endsAuthority .web ·)
  let (user?, place) := splitUser authority
  let (hostChars, portChars) := splitPort place
  if hostChars.isEmpty then throw .emptyHost
  let host ← readHost hostChars
  let port? ← readPort portChars
  let front := tail.takeWhile (· != '#')
  return {
    user := (user?.map userPart).getD []
    host
    port? := if port? = defaultPort? scheme then none else port?
    path := pathOf (front.takeWhile (· != '?'))
    query? := (splitOnce '?' front).map fun p => p.2.flatMap (escapeChar querySpecials)
    fragment? := (splitOnce '#' tail).map fun p => p.2.flatMap (escapeChar fragmentSpecials)
  }

/-- Checks an address of a scheme that is not known, after its two slashes. -/
def checkOther (rest : List Char) : Except Fault Unit := do
  let authority := rest.takeWhile (!endsAuthority .other ·)
  let (user?, place) := splitUser authority
  if user? = some [] ∧ place.isEmpty ∧ (rest.drop authority.length) ≠ [] then throw .emptyHost
  let (hostChars, portChars) := splitPort place
  checkOpaqueHost hostChars
  if hostChars.isEmpty then
    if place ≠ [] then throw .emptyHost
    if user?.any fun u => !(userPart u).isEmpty then throw .emptyHost
  let _ ← readPort (portChars.takeWhile (· != '\\'))
  return ()

/-- Checks the host of a file's address, after its scheme. -/
def checkFile (rest : List Char) : Except Fault Unit := do
  match rest with
  | a :: b :: rest =>
    if (a = '/' ∨ a = '\\') ∧ (b = '/' ∨ b = '\\') then
      let host := rest.takeWhile (!endsAuthority .file ·)
      if !host.isEmpty && !isDrive host then
        let _ ← readHost host
  | _ => return ()

/-- Spaces and control codes, which do not count at the ends of an address. -/
def isEdge (c : Char) : Bool :=
  c.toNat ≤ 0x20

/-- Tabs and line ends, which do not count in an address. -/
def isSkipped (c : Char) : Bool :=
  c == '\t' || c == '\n' || c == '\r'

/-- Whether a text starts with two slashes. -/
def hasSlashes (cs : List Char) : Bool :=
  (after? ['/', '/'] cs).isSome

/-- Reads an address. -/
def read (text : String) : Except Fault Reading := do
  let cs := (trimBy isEdge text.toList).filter (!isSkipped ·)
  match splitScheme? cs with
  | none => throw .noScheme
  | some (scheme, rest) =>
    match Family.ofScheme scheme with
    | .web =>
      let u ← readWeb scheme (rest.dropWhile fun c => c == '/' || c == '\\')
      return if scheme = "https".toList then .https u else .other (String.ofList scheme)
    | .file =>
      checkFile rest
      return .other (String.ofList scheme)
    | .other =>
      if hasSlashes rest then checkOther (rest.drop 2)
      return .other (String.ofList scheme)

end Url

end Scaffold
