/-!
# Hosts
-/

namespace Admission

/-- The host of an address. -/
inductive Url.Host where
  /-- A name, mapped to lower case. -/
  | domain (name : List Char)
  /-- An address of 32 bits. -/
  | ipv4 (address : Nat)
  /-- An address of eight pieces of 16 bits. -/
  | ipv6 (pieces : List Nat)
deriving DecidableEq, Repr

/-- Why a text is no address of a resource. -/
inductive Url.Fault where
  /-- There is no scheme. -/
  | relative
  | emptyHost
  | invalidPort
  | invalidIpv4
  | invalidIpv6
  | invalidDomain
  /-- A host outside the known schemes has a character that no host may have. -/
  | invalidCharacter
deriving DecidableEq, Repr

/-- The wording of a fault. -/
def Url.Fault.message : Url.Fault → String
  | .relative => "relative URL without a base"
  | .emptyHost => "empty host"
  | .invalidPort => "invalid port number"
  | .invalidIpv4 => "invalid IPv4 address"
  | .invalidIpv6 => "invalid IPv6 address"
  | .invalidDomain => "invalid international domain name"
  | .invalidCharacter => "invalid domain character"

/-- Whether a host is the own machine. -/
def Url.Host.isLoopback : Url.Host → Bool
  | .domain name => name == "localhost".toList
  | .ipv4 address => address / Nat.pow 2 24 = 127
  | .ipv6 pieces => pieces == [0, 0, 0, 0, 0, 0, 0, 1]

end Admission
