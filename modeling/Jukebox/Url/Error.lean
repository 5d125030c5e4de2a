/-!
Why a text is no address.
-/

namespace Jukebox.Url

inductive UrlError
  | noScheme
  | emptyHost
  | invalidPort
  | invalidIpv4
  | invalidIpv6
  /-- The host name holds characters or labels that no name may have. -/
  | invalidName
  /-- The host of a scheme without rules for hosts holds a character that ends hosts. -/
  | invalidHostCharacter
deriving DecidableEq, Repr

def UrlError.message : UrlError → String
  | noScheme => "relative URL without a base"
  | emptyHost => "empty host"
  | invalidPort => "invalid port number"
  | invalidIpv4 => "invalid IPv4 address"
  | invalidIpv6 => "invalid IPv6 address"
  | invalidName => "invalid international domain name"
  | invalidHostCharacter => "invalid domain character"

end Jukebox.Url
