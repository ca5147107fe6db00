/-!
Why a text is not an address.
-/

namespace Shakedown.Url

inductive Problem where
  | emptyHost
  | badPort
  | badIpv4
  | badIpv6
  | badDomain
  | badHostCharacter
  | noBase
deriving DecidableEq, Repr

def Problem.message : Problem → String
  | .emptyHost => "empty host"
  | .badPort => "invalid port number"
  | .badIpv4 => "invalid IPv4 address"
  | .badIpv6 => "invalid IPv6 address"
  | .badDomain => "invalid international domain name"
  | .badHostCharacter => "invalid domain character"
  | .noBase => "relative URL without a base"

end Shakedown.Url
