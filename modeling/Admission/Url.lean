import Admission.Http.Target
import Admission.Url.Domain
import Admission.Url.Ipv4
import Admission.Url.Ipv6

/-!
# Addresses of resources

Only scheme and host of an address are kept. Blanks and control characters at
both ends, and tabs and line breaks anywhere, do not count. In the known schemes
a backslash is a slash, any number of slashes may stand before the host, and the
host is a domain name or a numeric address.
-/

namespace Admission

/-- The address of a resource. -/
structure Url where
  /-- The scheme in lower case. -/
  scheme : String
  host : Option Url.Host
deriving DecidableEq, Repr

namespace Url

/-- How the rest of an address is read. -/
inductive SchemeKind where
  /-- A scheme of addresses on the network. -/
  | network
  | file
  | other
deriving DecidableEq, Repr

/-- The kind of a scheme. -/
def SchemeKind.of (scheme : String) : SchemeKind :=
  if ["http", "https", "ws", "wss", "ftp"].contains scheme then .network
  else if scheme = "file" then .file
  else .other

/-- The symbols that count. -/
def counted (text : String) : List Char :=
  let isMargin (symbol : Char) : Bool := symbol.toNat ≤ 0x20
  let inner := ((text.toList.dropWhile isMargin).reverse.dropWhile isMargin).reverse
  inner.filter fun symbol => symbol != '\t' && symbol != '\n' && symbol != '\r'

/-- The scheme in lower case and what follows its colon. -/
def scheme? (symbols : List Char) : Option (String × List Char) :=
  match symbols with
  | first :: _ =>
      if first.isAlpha then
        match symbols.dropWhile Target.isSchemeSymbol with
        | ':' :: rest =>
            some (Text.lowerAscii (String.ofList (symbols.takeWhile Target.isSchemeSymbol)), rest)
        | _ => none
      else none
  | [] => none

/-- Whether a symbol is a slash of either kind. -/
def isSlash (symbol : Char) : Bool := symbol = '/' || symbol = '\\'

/-- Whether a symbol ends the part of an address with user and host. -/
def endsAuthority (kind : SchemeKind) (symbol : Char) : Bool :=
  symbol = '/' || symbol = '?' || symbol = '#' || (symbol = '\\' && kind != .other)

/-- What precedes the last `@` of an authority, and what follows it. -/
def userAndHost (authority : List Char) : Option (List Char) × List Char :=
  match Text.splitLast? '@' authority with
  | some (user, rest) => (some user, rest)
  | none => (none, authority)

/-- The host at the front, up to a colon outside square brackets. -/
def hostText (bracketed : Bool) : List Char → List Char × List Char
  | [] => ([], [])
  | symbol :: rest =>
      if symbol = ':' ∧ !bracketed then ([], symbol :: rest)
      else
        let bracketed := symbol = '[' ∨ (bracketed ∧ symbol ≠ ']')
        let (host, after) := hostText bracketed rest
        (symbol :: host, after)

/-- The address in square brackets, when a host starts with one. -/
def bracketed? (host : List Char) : Option (Except Fault Host) :=
  match host with
  | '[' :: rest =>
      some <|
        match rest.reverse with
        | ']' :: inner =>
            match Ipv6.ofText? inner.reverse with
            | some pieces => .ok (.ipv6 pieces)
            | none => .error .invalidIpv6
        | _ => .error .invalidIpv6
  | _ => none

/-- The host of an address with a known scheme. -/
def knownHost (host : List Char) : Except Fault Host :=
  match bracketed? host with
  | some result => result
  | none =>
      match Domain.ofBytes? (Target.percentDecode host) with
      | none => .error .invalidDomain
      | some [] => .error .emptyHost
      | some name =>
          if Ipv4.endsInNumber name then
            match Ipv4.ofName? name with
            | some address => .ok (.ipv4 address)
            | none => .error .invalidIpv4
          else .ok (.domain name)

/-- The host of an address with another scheme. -/
def otherHost (host : List Char) : Except Fault Host :=
  match bracketed? host with
  | some result => result
  | none =>
      let isRefused (symbol : Char) : Bool :=
        symbol.toNat = 0 ||
          [' ', '#', '/', ':', '<', '>', '?', '@', '[', '\\', ']', '^', '|'].contains symbol
      if host.any isRefused then .error .invalidCharacter else .ok (.domain host)

/-- Check what follows a host: nothing, or a colon and a number of 16 bits. -/
def checkPort : List Char → Except Fault Unit
  | [] => .ok ()
  | ':' :: digits =>
      let digits := digits.takeWhile fun symbol => !isSlash symbol
      if digits.all Decimal.isDigit ∧ Decimal.value digits ≤ 65535 then .ok ()
      else .error .invalidPort
  | _ => .error .invalidPort

/-- Whether a user part has a name or a password. -/
def hasUser : Option (List Char) → Bool
  | none => false
  | some user => user != [] && user != [':']

/-- The host of an authority on the network or under another scheme. -/
def authorityHost (kind : SchemeKind) (symbols : List Char) : Except Fault (Option Host) := do
  let authority := symbols.takeWhile fun symbol => !endsAuthority kind symbol
  let (user, rest) := userAndHost authority
  let (text, after) := hostText false rest
  if text.isEmpty then
    let endsAtOnce := user = some [] ∧ rest.isEmpty ∧ authority.length < symbols.length
    if kind = .network ∨ !after.isEmpty ∨ hasUser user ∨ endsAtOnce then .error .emptyHost
    else return none
  else
    let host ← if kind = .network then knownHost text else otherHost text
    checkPort after
    return some host

/-- Whether a text is a drive letter with its mark. -/
def isDrive : List Char → Bool
  | [letter, mark] => letter.isAlpha && (mark = ':' || mark = '|')
  | _ => false

/-- The host of a file address; it has one only after two slashes. -/
def fileHost (symbols : List Char) : Except Fault (Option Host) :=
  match symbols with
  | first :: second :: rest =>
      if isSlash first ∧ isSlash second then
        let text := rest.takeWhile fun symbol => !endsAuthority .file symbol
        if text.isEmpty ∨ isDrive text then .ok none else (knownHost text).map some
      else .ok none
  | _ => .ok none

/-- The host of an address, by the kind of its scheme. -/
def hostOf (kind : SchemeKind) (symbols : List Char) : Except Fault (Option Host) :=
  match kind with
  | .network => authorityHost .network (symbols.dropWhile isSlash)
  | .file => fileHost symbols
  | .other =>
      match symbols with
      | '/' :: '/' :: rest => authorityHost .other rest
      | _ => .ok none

/-- The address that a text denotes. -/
def ofText (text : String) : Except Fault Url :=
  match scheme? (counted text) with
  | none => .error .relative
  | some (scheme, rest) => (hostOf (SchemeKind.of scheme) rest).map fun host => ⟨scheme, host⟩

/-- Whether what an address names is read over a protected connection, or from
the own machine. -/
def isProtected (url : Url) : Bool :=
  url.scheme = "https" || (url.scheme = "http" && url.host.any Host.isLoopback)

end Url
end Admission
