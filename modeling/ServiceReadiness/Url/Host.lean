/-
# Hosts

The host of a URL is a domain name, a numeric address or, where the scheme is not
special, any text.  A name whose last part is a number must be an address.
-/

import ServiceReadiness.Url.Address
import ServiceReadiness.Url.Domain
import ServiceReadiness.Url.Percent

namespace ServiceReadiness

/-- Why a text is no absolute URL. -/
inductive UrlFault where
  | emptyHost
  | invalidDomain
  | invalidDomainCharacter
  | invalidPort
  | invalidIpv4
  | invalidIpv6
  | relativeWithoutBase
  deriving DecidableEq, Repr

/-- The wording of a fault. -/
def UrlFault.message : UrlFault → String
  | .emptyHost => "empty host"
  | .invalidDomain => "invalid international domain name"
  | .invalidDomainCharacter => "invalid domain character"
  | .invalidPort => "invalid port number"
  | .invalidIpv4 => "invalid IPv4 address"
  | .invalidIpv6 => "invalid IPv6 address"
  | .relativeWithoutBase => "relative URL without a base"

/-- The host of a URL. -/
inductive Host where
  /-- A name, in the form in which it is written. -/
  | name (text : List Char)
  /-- A number of 32 bits. -/
  | ipv4 (address : Nat)
  /-- Eight groups of 16 bits. -/
  | ipv6 (groups : List Nat)
  deriving DecidableEq, Repr

namespace Host

/-- The written form of a host. -/
def render : Host → List Char
  | .name text => text
  | .ipv4 address => Ipv4.render address
  | .ipv6 groups => '[' :: Ipv6.render groups ++ [']']

/-- A host in brackets. -/
def readBracketed (inner : List Char) : Except UrlFault Host :=
  if inner.getLast? = some ']' then
    match Ipv6.read inner.dropLast with
    | some groups => .ok (.ipv6 groups)
    | none => .error .invalidIpv6
  else .error .invalidIpv6

/-- A name in ASCII, or the address that it spells. -/
def ofAscii (ascii : List Char) : Except UrlFault Host :=
  if ascii = [] then .error .emptyHost
  else if Ipv4.endsInNumber ascii then
    match Ipv4.read ascii with
    | some address => .ok (.ipv4 address)
    | none => .error .invalidIpv4
  else .ok (.name ascii)

/-- The host of a URL with a special scheme. -/
def readSpecial : List Char → Except UrlFault Host
  | '[' :: inner => readBracketed inner
  | cs =>
    match (Percent.decode cs).bind Domain.toAscii with
    | some ascii => ofAscii ascii
    | none => .error .invalidDomain

/-- A character that no host holds. -/
def isForbidden (c : Char) : Bool := "\x00\t\n\r #/:<>?@[\\]^|".toList.contains c

/-- The host of a URL with another scheme. -/
def readOpaque : List Char → Except UrlFault Host
  | '[' :: inner => readBracketed inner
  | cs =>
    if cs.any isForbidden then .error .invalidDomainCharacter
    else .ok (.name (Percent.encode Percent.controls cs))

end Host
end ServiceReadiness
