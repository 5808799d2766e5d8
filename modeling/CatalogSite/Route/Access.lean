import CatalogSite.Config
import CatalogSite.Failure
import CatalogSite.Url.Parse

namespace CatalogSite.Config

/-!
# Who may ask, and for which host

A client is turned away by the beginning of its address or by a part of its user
agent. A request needs a well-formed URL, on one of the allowed hosts if the
configuration lists any.
-/

/-- Whether a client is turned away. -/
def blocks
    (config : Config)
    (address userAgent : String) :
    Bool :=
  config.blockedIPs.any
      (fun start => Text.startsWith start.toList address.toList) ||
    config.blockedUAs.any (fun part => Text.occursIn part.toList userAgent.toList)

/-- Whether requests for a host are answered. -/
def allowsHost
    (config : Config)
    (host : String) :
    Bool :=
  config.accessHosts.isEmpty || config.accessHosts.contains host

/-- Read the URL of a request. -/
def admitUrl
    (config : Config)
    (text : String) :
    Except RequestError Url :=
  match Url.parse text with
  | .error cause => .error (.refused (.malformedUrl text cause))
  | .ok url =>
      let host := url.hostText?.getD ""
      if config.allowsHost host then .ok url
      else .error (.refused (.disallowedHost host))

end CatalogSite.Config
