/-
**What can be wrong with an address of the web.**
-/

namespace SecretSource.Url

/-- Why a text is no absolute address. -/
inductive Fault where
  | noScheme
  | noHost
  | badPort
  | badIpv4
  | badIpv6
  | badName
  | badHostCharacter
deriving DecidableEq, Repr

/-- The sentence for a fault. -/
def Fault.message : Fault → String
  | .noScheme => "relative URL without a base"
  | .noHost => "empty host"
  | .badPort => "invalid port number"
  | .badIpv4 => "invalid IPv4 address"
  | .badIpv6 => "invalid IPv6 address"
  | .badName => "invalid international domain name"
  | .badHostCharacter => "invalid domain character"

end SecretSource.Url
