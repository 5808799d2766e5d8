import CatalogSite.Http.Target
import CatalogSite.Text.Lowercase
import CatalogSite.Url.Address

namespace CatalogSite.Http

/-!
# Requests

A request comes with header fields and from a network address. Only header values of
visible ASCII characters count. The fields of one name are read as one list, except
for the host, of which the first counts.
-/

/-- The network address of a client. -/
inductive PeerAddress where
  | ipv4 (address : Nat)
  | ipv6 (pieces : List Nat)
  deriving Repr, DecidableEq

namespace PeerAddress

/-- Read an address with a port. -/
def ofText? (text : String) : Option PeerAddress :=
  match text.toList with
  | '[' :: rest =>
      (Url.ipv6? (rest.takeWhile (· != ']'))).map .ipv6
  | chars => (Url.dottedIpv4? (chars.takeWhile (· != ':'))).map .ipv4

/-- The text of an address; one of version 4 inside version 6 keeps its dots. -/
def text : PeerAddress → String
  | .ipv4 address => String.ofList (Url.ipv4Text address)
  | .ipv6 [0, 0, 0, 0, 0, 0xFFFF, high, low] =>
      "::ffff:" ++ String.ofList (Url.ipv4Text (high * 65536 + low))
  | .ipv6 pieces => String.ofList (Url.ipv6Text pieces)

end PeerAddress

/-- A request as it arrives. -/
structure Request where
  target : RequestTarget
  headers : List (String × String)
  peer : Option PeerAddress
  deriving Repr, DecidableEq

/-- Whether a header value consists of visible ASCII characters, blanks and tabs. -/
def isVisibleAscii (value : String) : Bool :=
  value.toList.all fun c => (0x20 ≤ c.toNat && c.toNat < 0x7F) || c == '\t'

namespace Request

/-- The values of the header fields of a name, in order. -/
def headerValues
    (request : Request)
    (name : String) :
    List String :=
  (request.headers.filter fun field =>
    Text.asciiLowercase field.1 = name).map Prod.snd

/-- The values that count, joined, if there are any. -/
def header?
    (request : Request)
    (name : String) :
    Option String :=
  let values := (request.headerValues name).filter isVisibleAscii
  if values.isEmpty then none else some (Text.joinWith "; " values)

/-- The host that a request names. -/
def host (request : Request) : String :=
  ((request.headerValues "host").head?.filter isVisibleAscii).getD "localhost"

end Request

end CatalogSite.Http

namespace CatalogSite

/-- A request for an address: who asks, and what they remember. -/
structure ClientRequest where
  address : String
  userAgent : String
  url : String
  cookies : Option String
  deriving Repr, DecidableEq

/-- What a request asks of the site. -/
def Http.Request.toClientRequest (request : Http.Request) : ClientRequest where
  address := (request.peer.map Http.PeerAddress.text).getD ""
  userAgent := (request.header? "user-agent").getD ""
  url := request.target.address request.host
  cookies := request.header? "cookie"

end CatalogSite
