/-
  Broker addresses.

  An address is a host and a port.  There are two ways to write one.

  1. **Plain** — `host` or `host:port`.  The host is whatever stands in front of the first `:`.

  2. **Locator** — a text with `://` is read as a uniform resource locator of the schemes `tcp` and
     `mqtt`: user, host, port, and then a path, query or fragment, of which only host and port count.
     A host in brackets is an IPv6 address; any other host is kept as it is written, with control and
     non-ASCII characters as percent escapes.

  The port is 1883 where none is written.  Locators of other schemes are refused, but only after their
  own rules for host and port have been checked.
-/

import FieldBridge.Broker.Ipv6
import FieldBridge.Domain.Name

namespace FieldBridge

/-- Where a broker listens. -/
structure Address where
  host : String
  port : UInt16
  deriving DecidableEq, Repr, Inhabited

namespace Address

/-- The port of a broker when none is written. -/
def defaultPort : UInt16 := 1883

/-- Why a text is no address. -/
inductive Fault where
  | missingHost
  /-- The port of a plain address is no 16-bit number. -/
  | invalidPort (part : String)
  | tooManySeparators
  | unsupportedScheme (scheme : String)
  /-- There is no scheme in front of the first `:`. -/
  | noScheme
  | emptyHost
  | invalidIpv6
  | invalidIpv4
  | invalidHostCharacter
  | invalidDomainName
  /-- The port of a locator is no 16-bit number. -/
  | invalidPortNumber
  deriving DecidableEq, Repr

/-- The wording of the fault. -/
def Fault.message : Fault → String
  | .missingHost => "missing host"
  | .invalidPort part => "invalid port '" ++ part ++ "'"
  | .tooManySeparators => "too many ':' separators"
  | .unsupportedScheme scheme => "unsupported scheme '" ++ scheme ++ "'"
  | .noScheme => "relative URL without a base"
  | .emptyHost => "empty host"
  | .invalidIpv6 => "invalid IPv6 address"
  | .invalidIpv4 => "invalid IPv4 address"
  | .invalidHostCharacter => "invalid domain character"
  | .invalidDomainName => "invalid international domain name"
  | .invalidPortNumber => "invalid port number"

/-! ## Plain addresses -/

/-- `host` or `host:port`. -/
def parsePlain (s : List Char) : Except Fault Address :=
  match Text.pieces ':' s with
  | [] => .error .missingHost
  | [host] => if host = [] then .error .missingHost else .ok ⟨String.ofList host, defaultPort⟩
  | host :: port :: more =>
    if host = [] then .error .missingHost
    else match Decimal.parse Decimal.limit16 port with
      | .error _ => .error (.invalidPort (String.ofList port))
      | .ok n =>
        if more = [] then .ok ⟨String.ofList host, n.toUInt16⟩ else .error .tooManySeparators

/-! ## Locators -/

/-- A kind of scheme; it decides how the host is read. -/
inductive Kind where
  /-- The host is kept as written. -/
  | generic
  /-- The host is a domain name or an IPv4 address and must not be empty. -/
  | domain
  /-- As `domain`, without a port, and possibly without a host. -/
  | file
  deriving DecidableEq, Repr

/-- The kind of a scheme in lower case. -/
def Kind.ofScheme (scheme : List Char) : Kind :=
  if scheme = "file".toList then .file
  else if scheme = "http".toList ∨ scheme = "https".toList ∨ scheme = "ws".toList
    ∨ scheme = "wss".toList ∨ scheme = "ftp".toList then .domain
  else .generic

/-- Tabs and line breaks count nowhere in a locator, and blanks and controls not at its ends. -/
def cleaned (s : List Char) : List Char :=
  let outer (c : Char) : Bool := c.toNat ≤ 0x20
  let s := s.dropWhile outer
  let s := (s.reverse.dropWhile outer).reverse
  s.filter fun c => !(c = '\t' || c = '\n' || c = '\r')

def isLetter (c : Char) : Bool := ('a' ≤ c && c ≤ 'z') || ('A' ≤ c && c ≤ 'Z')

def isSchemeChar (c : Char) : Bool :=
  isLetter c || ('0' ≤ c && c ≤ '9') || c = '+' || c = '-' || c = '.'

/-- The scheme in lower case and what follows its `:`. -/
def cutScheme? (s : List Char) : Option (List Char × List Char) :=
  match Text.cut? ':' s with
  | none => none
  | some (scheme, rest) =>
    if (scheme.head?.any isLetter) && scheme.all isSchemeChar then
      some (scheme.map Text.lower, rest)
    else none

/-- The characters that end the part with user, host and port. -/
def endsAuthority (kind : Kind) (c : Char) : Bool :=
  c = '/' || c = '?' || c = '#' || (kind ≠ .generic && c = '\\')

/-- Drop everything up to the last `@` of the authority; says whether a user was named. -/
def dropUser (kind : Kind) (s : List Char) : Except Fault (Bool × List Char) :=
  let authority := s.takeWhile fun c => !endsAuthority kind c
  let rest := s.drop authority.length
  let behind := (authority.reverse.takeWhile (· ≠ '@')).reverse
  if behind.length = authority.length then .ok (false, s)
  else
    let user := authority.take (authority.length - behind.length - 1)
    if user = [] then
      if behind = [] ∧ rest ≠ [] then .error .emptyHost else .ok (false, behind ++ rest)
    else .ok (user ≠ [':'], behind ++ rest)

/-- The host in front of a port or path: a `:` within brackets does not end it. -/
def takeHost (kind : Kind) : (inBrackets : Bool) → List Char → List Char
  | _, [] => []
  | inBrackets, c :: s =>
    if (c = ':' && !inBrackets) || endsAuthority kind c then []
    else c :: takeHost kind (if c = '[' then true else if c = ']' then false else inBrackets) s

/-- An address in brackets. -/
def bracketed (s : List Char) : Except Fault (List Char) :=
  match s with
  | '[' :: rest =>
    if rest.getLast? = some ']' then match Ipv6.parse? rest.dropLast with
      | some pieces => .ok ('[' :: Ipv6.text pieces ++ [']'])
      | none => .error .invalidIpv6
    else .error .invalidIpv6
  | _ => .error .invalidIpv6

/-- The characters that cannot stand in a host. -/
def forbidden : List Char :=
  ['\x00', '\t', '\n', '\r', ' ', '#', '/', ':', '<', '>', '?', '@', '[', '\\', ']', '^', '|']

/-- Percent escapes for controls and everything beyond ASCII. -/
def escaped (s : List Char) : List Char :=
  s.flatMap fun c =>
    if c.toNat < 0x20 ∨ 0x7F ≤ c.toNat then
      (Utf8.encodeChar c).flatMap fun b => '%' :: Hex.fixedWith Hex.capital 2 b.toNat
    else [c]

/-- A host that is kept as written; `none` if it is empty. -/
def genericHost (s : List Char) : Except Fault (Option (List Char)) :=
  match s with
  | [] => .ok none
  | '[' :: _ => (bracketed s).map some
  | _ => if s.any forbidden.contains then .error .invalidHostCharacter else .ok (some (escaped s))

/-- The bytes of a domain name, its percent escapes taken back. -/
def unescaped : List Char → Bytes
  | '%' :: a :: b :: s => match Hex.digit? a, Hex.digit? b with
    | some h, some l => (h * 16 + l).toUInt8 :: unescaped s
    | _, _ => Utf8.encodeChar '%' ++ unescaped (a :: b :: s)
  | c :: s => Utf8.encodeChar c ++ unescaped s
  | [] => []

/-- The characters that cannot stand in a domain name: controls, the percent mark, and those that cannot
stand in any host. -/
def forbiddenInName (c : Char) : Bool :=
  c.toNat < 0x20 || c.toNat = 0x7F || c = '%' || forbidden.contains c

/-- A number of an IPv4 address: decimal, octal behind `0`, hexadecimal behind `0x`. -/
def ipv4Number? (s : List Char) : Option Nat :=
  let base (b : Nat) (d : List Char) : Option Nat :=
    d.foldl (fun acc c => match acc, Hex.digit? c with
      | some n, some x => if x < b then some (n * b + x) else none
      | _, _ => none) (some 0)
  match s with
  | [] => none
  | '0' :: 'x' :: d => base 16 d
  | '0' :: 'X' :: d => base 16 d
  | '0' :: d => base 8 d
  | d => base 10 d

/-- The labels without the empty one behind a closing point. -/
def closed (labels : List (List Char)) : List (List Char) :=
  if labels.getLast? = some [] ∧ 1 < labels.length then labels.dropLast else labels

/-- The last label is a number, so that the name must be an IPv4 address. -/
def endsInNumber (labels : List (List Char)) : Bool :=
  match (closed labels).getLast? with
  | none => false
  | some l =>
    (l ≠ [] && l.all fun c => (Decimal.digit? c).isSome)
      || ((l.take 2 = ['0', 'x'] || l.take 2 = ['0', 'X']) && (ipv4Number? l).isSome)

/-- One to four numbers; all but the last below 256, the last filling the bytes that are left. -/
def isIpv4 (labels : List (List Char)) : Bool :=
  match (closed labels).mapM ipv4Number? with
  | none => false
  | some l =>
    l.length ≤ 4 && (l.dropLast.all (· < 256))
      && (l.getLast?.all (· < Nat.pow 256 (5 - l.length)))

/-- Check a host that must be a domain name or an address. -/
def checkDomain (s : List Char) : Except Fault Unit :=
  match s with
  | '[' :: _ => (bracketed s).map fun _ => ()
  | _ => match (Utf8.decode? (unescaped s)).bind Domain.labels? with
    | none => .error .invalidDomainName
    | some labels =>
      if labels.any (·.any forbiddenInName) then .error .invalidDomainName
      else if labels = [[]] then .error .emptyHost
      else if endsInNumber labels && !isIpv4 labels then .error .invalidIpv4
      else .ok ()

/-- The port behind a host; `none` if there are no digits. -/
def locatorPort (s : List Char) : Except Fault (Option UInt16) :=
  let d := s.takeWhile fun c => (Decimal.digit? c).isSome
  let rest := s.drop d.length
  match Decimal.parse Decimal.limit16 d with
  | .error .tooLarge => .error .invalidPortNumber
  | number =>
    match rest.head? with
    | none => .ok (number.toOption.map Nat.toUInt16)
    | some c =>
      if c = '/' ∨ c = '\\' ∨ c = '?' ∨ c = '#' then .ok (number.toOption.map Nat.toUInt16)
      else .error .invalidPortNumber

/-- What stands behind the host: a port if it begins with `:`. -/
def portBehind (s : List Char) : Except Fault (Option UInt16) :=
  match s with
  | ':' :: rest => locatorPort rest
  | _ => .ok none

/-- Host and port of an authority whose host is kept as written. -/
def parseAuthority (s : List Char) : Except Fault (Option (List Char) × Option UInt16) := do
  let (user, s) ← dropUser .generic s
  let written := takeHost .generic false s
  let rest := s.drop written.length
  let host ← genericHost written
  if host.isNone ∧ rest.head? = some ':' then throw .emptyHost
  let port ← portBehind rest
  if host.isNone ∧ user then throw .emptyHost
  return (host, port)

/-- Check the authority of a scheme with domain names. -/
def checkAuthority (s : List Char) : Except Fault Unit := do
  let (_, s) ← dropUser .domain s
  let written := takeHost .domain false s
  if written = [] then throw .emptyHost
  checkDomain written
  let _ ← portBehind (s.drop written.length)
  return ()

/-- Check the host of a file locator. -/
def checkFileHost (s : List Char) : Except Fault Unit :=
  let host := s.takeWhile fun c => !endsAuthority .file c
  match host with
  | [] => .ok ()
  | [d, m] => if isLetter d && (m = ':' || m = '|') then .ok () else checkDomain host
  | _ => checkDomain host

/-- A locator: its scheme must be `tcp` or `mqtt` and its host must not be missing. -/
def parseLocator (s : List Char) : Except Fault Address := do
  let some (scheme, rest) := cutScheme? (cleaned s) | throw .noScheme
  match Kind.ofScheme scheme with
  | .file => match rest with
    | a :: b :: more =>
      if (a = '/' ∨ a = '\\') ∧ (b = '/' ∨ b = '\\') then checkFileHost more
      throw (.unsupportedScheme (String.ofList scheme))
    | _ => throw (.unsupportedScheme (String.ofList scheme))
  | .domain =>
    checkAuthority (rest.dropWhile fun c => c = '/' || c = '\\')
    throw (.unsupportedScheme (String.ofList scheme))
  | .generic =>
    let (host, port) ← match rest with
      | '/' :: '/' :: more => parseAuthority more
      | _ => .ok (none, none)
    if scheme ≠ "tcp".toList ∧ scheme ≠ "mqtt".toList then
      throw (.unsupportedScheme (String.ofList scheme))
    match host with
    | none => throw .missingHost
    | some host => return ⟨String.ofList host, port.getD defaultPort⟩

/-- The text contains `://`. -/
def isLocator : List Char → Bool
  | [] => false
  | c :: s => (Text.after? "://".toList (c :: s)).isSome || isLocator s

/-- A text that is no address, and why. -/
structure ParseError where
  input : String
  fault : Fault
  deriving DecidableEq, Repr

/-- The wording of the error. -/
def ParseError.message (e : ParseError) : String :=
  "invalid broker URL: " ++ e.input ++ ": " ++ e.fault.message

/-- The address that a text writes in either way. -/
def parse (input : String) : Except ParseError Address :=
  let s := input.toList
  match if isLocator s then parseLocator s else parsePlain s with
  | .ok a => .ok a
  | .error fault => .error ⟨input, fault⟩

end Address

end FieldBridge
