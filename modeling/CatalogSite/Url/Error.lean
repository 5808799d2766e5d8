namespace CatalogSite

/-!
# Failures of URL parsing

Each cause is a constructor; `UrlError.message` words it.
-/

/-- Why a text is no URL. -/
inductive UrlError where
  | relativeWithoutBase
  | relativeToOpaqueBase
  | emptyHost
  | invalidPort
  | invalidIpv4
  | invalidIpv6
  | invalidDomain
  | invalidHostCharacter
  deriving Repr, DecidableEq

/-- The wording of a cause. -/
def UrlError.message : UrlError → String
  | .relativeWithoutBase => "relative URL without a base"
  | .relativeToOpaqueBase => "relative URL with a cannot-be-a-base base"
  | .emptyHost => "empty host"
  | .invalidPort => "invalid port number"
  | .invalidIpv4 => "invalid IPv4 address"
  | .invalidIpv6 => "invalid IPv6 address"
  | .invalidDomain => "invalid international domain name"
  | .invalidHostCharacter => "invalid domain character"

end CatalogSite
