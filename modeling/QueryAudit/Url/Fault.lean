/-!
# What is wrong with an address

The faults of an address as a whole, and their wording.
-/

namespace QueryAudit.Url

/-- Why a text is no address. -/
inductive Fault
  | noScheme
  | emptyHost
  | invalidPort
  | invalidIpv4
  | invalidIpv6
  | invalidDomainName
  | invalidDomainCharacter
deriving DecidableEq

/-- The wording of a fault. -/
def Fault.describe : Fault → String
  | noScheme => "relative URL without a base"
  | emptyHost => "empty host"
  | invalidPort => "invalid port number"
  | invalidIpv4 => "invalid IPv4 address"
  | invalidIpv6 => "invalid IPv6 address"
  | invalidDomainName => "invalid international domain name"
  | invalidDomainCharacter => "invalid domain character"

end QueryAudit.Url
