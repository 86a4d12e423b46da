/-!
# Addresses that cannot be read
-/
namespace ColumnWire

/-- Why a text is no address. -/
inductive UrlFault where
  | noScheme
  | noHost
  | badPort
  | badIpv4
  | badIpv6
  | badHostCharacter
  | badHostName
deriving Repr, DecidableEq, Inhabited

def UrlFault.message : UrlFault → String
  | .noScheme => "relative URL without a base"
  | .noHost => "empty host"
  | .badPort => "invalid port number"
  | .badIpv4 => "invalid IPv4 address"
  | .badIpv6 => "invalid IPv6 address"
  | .badHostCharacter => "invalid domain character"
  | .badHostName => "invalid international domain name"

end ColumnWire
