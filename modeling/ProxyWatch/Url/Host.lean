import ProxyWatch.Url.Domain
import ProxyWatch.Url.Ipv4
import ProxyWatch.Url.Ipv6
import ProxyWatch.Url.Percent

/-!
Hosts of urls.
-/
namespace ProxyWatch

/-- Why a text is no url. -/
inductive UrlError
  | noScheme
  | emptyHost
  | invalidPort
  | invalidIpv4
  | invalidIpv6
  /-- A domain name of a web url has no ASCII form. -/
  | invalidDomain
  /-- The host of another url has a character that no host may hold. -/
  | invalidHostCharacter
  deriving DecidableEq, Repr, Inhabited

def UrlError.message : UrlError → String
  | noScheme => "relative URL without a base"
  | emptyHost => "empty host"
  | invalidPort => "invalid port number"
  | invalidIpv4 => "invalid IPv4 address"
  | invalidIpv6 => "invalid IPv6 address"
  | invalidDomain => "invalid international domain name"
  | invalidHostCharacter => "invalid domain character"

/-- A host: a name or an address. -/
inductive Host
  | name (chars : List Char)
  | ipv4 (address : Nat)
  | ipv6 (pieces : List Nat)
  deriving DecidableEq, Repr, Inhabited

namespace Host

def chars : Host → List Char
  | name cs => cs
  | ipv4 a => Ipv4.chars a
  | ipv6 ps => '[' :: Ipv6.chars ps ++ [']']

/-- Reads an address whose opening bracket is already taken off. -/
def ofBracketed (cs : List Char) : Except UrlError Host :=
  match cs.getLast?, Ipv6.parse? cs.dropLast with
  | some ']', some ps => .ok (ipv6 ps)
  | _, _ => .error .invalidIpv6

/-- The host of a web url: a bracketed address, a numeric address or a domain name. -/
def ofWebText : List Char → Except UrlError Host
  | '[' :: cs => ofBracketed cs
  | cs =>
    match (Percent.decodeText? cs).bind Domain.toAscii? with
    | none => .error .invalidDomain
    | some [] => .error .emptyHost
    | some domain =>
      if Ipv4.looksNumeric domain then
        match Ipv4.parse? domain with
        | some a => .ok (ipv4 a)
        | none => .error .invalidIpv4
      else .ok (name domain)

/-- A character that the host of any url may not hold. -/
def isForbidden (c : Char) : Bool :=
  c.toNat = 0 || "\t\n\r #/:<>?@[\\]^|".toList.contains c

/-- The host of a url that is no web url: a bracketed address, or a name that is kept as it is. -/
def ofText : List Char → Except UrlError Host
  | '[' :: cs => ofBracketed cs
  | cs =>
    if cs.any isForbidden then .error .invalidHostCharacter
    else .ok (name (Percent.encode Percent.controls cs))

end Host
end ProxyWatch
