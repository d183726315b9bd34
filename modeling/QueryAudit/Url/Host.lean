import QueryAudit.Url.Domain
import QueryAudit.Url.Ipv4
import QueryAudit.Url.Ipv6
import QueryAudit.Url.Percent
/-!
# Hosts

The host of an address is a domain name or an IP address. The host of a web address is decoded and
brought to ASCII first, so that an address written in any of the forms a domain name allows is still
taken for one. The host of any other kind of address is kept as it is.
-/

namespace QueryAudit.Url

/-- The host of a web address. -/
inductive Host
  | domain (name : List Char)
  | ipv4 (address : Ipv4)
  | ipv6 (address : Ipv6)
deriving DecidableEq

namespace Host

/-- The text between brackets, if a host that starts with one also ends with one. -/
def bracketed (s : List Char) : Except Fault Ipv6 :=
  let inner := s.drop 1
  if inner.getLast? = some ']' then Ipv6.parse inner.dropLast else .error .invalidIpv6

/-- The host that a text writes. -/
def parse (s : List Char) : Except Fault Host :=
  if s.head? = some '[' then (bracketed s).map .ipv6
  else
    match (Percent.decodeText? s).bind Domain.toAscii? with
    | none => .error .invalidDomainName
    | some name =>
      if name.isEmpty then .error .emptyHost
      else if Ipv4.isNumeric name then (Ipv4.parse name).map .ipv4
      else .ok (.domain name)

/-- A character that no host of any address may hold. -/
def isForbidden (c : Char) : Bool :=
  ['\x00', '\t', '\n', '\r', ' ', '#', '/', ':', '<', '>', '?', '@', '[', '\\', ']', '^', '|'].contains c

/-- A host of an address that is no web address is only checked. -/
def checkOpaque (s : List Char) : Except Fault Unit :=
  if s.head? = some '[' then (bracketed s).map fun _ => ()
  else if s.any isForbidden then .error .invalidDomainCharacter
  else .ok ()

/-- The written form of a host. -/
def render : Host → List Char
  | domain name => name
  | ipv4 address => address.render
  | ipv6 address => '[' :: address.render ++ [']']

end Host

end QueryAudit.Url
