/-!
# Why a text is no address

The reasons for which a text is not read as an address, with the words for each.
-/

namespace StartOrder.Url

/-- Why a text is not read as an address. -/
inductive Problem where
  | emptyHost
  | badDomain
  | badPort
  | badIpv4
  | badIpv6
  | badHostCharacter
  | noScheme
  | opaqueBase
  deriving DecidableEq, Repr

/-- The words for a problem. -/
def Problem.message : Problem → String
  | .emptyHost => "empty host"
  | .badDomain => "invalid international domain name"
  | .badPort => "invalid port number"
  | .badIpv4 => "invalid IPv4 address"
  | .badIpv6 => "invalid IPv6 address"
  | .badHostCharacter => "invalid domain character"
  | .noScheme => "relative URL without a base"
  | .opaqueBase => "relative URL with a cannot-be-a-base base"

end StartOrder.Url
