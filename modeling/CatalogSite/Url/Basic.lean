import CatalogSite.Url.Address
import CatalogSite.Url.Form

namespace CatalogSite

/-!
# URLs

A URL has a scheme, possibly an authority, a path, and possibly a query and a
fragment. All parts are held in their written, normalized form, so that the text
of a URL is their concatenation.
-/

/-- Who serves a URL. -/
inductive Host where
  | empty
  | domain (name : List Char)
  | ipv4 (address : Nat)
  | ipv6 (pieces : List Nat)
  deriving Repr, DecidableEq

namespace Host

/-- The text of a host. -/
def chars : Host → List Char
  | .empty => []
  | .domain name => name
  | .ipv4 address => Url.ipv4Text address
  | .ipv6 pieces => '[' :: (Url.ipv6Text pieces ++ [']'])

end Host

/-- The part of a URL that names a host, and who asks it. -/
structure Authority where
  username : List Char
  password : List Char
  host : Host
  port : Option Nat
  deriving Repr, DecidableEq

namespace Authority

/-- The authority that is only a host. -/
def ofHost (host : Host) : Authority where
  username := []
  password := []
  host := host
  port := none

/-- The written name and password. -/
def userinfo (authority : Authority) : List Char :=
  let password :=
    if authority.password.isEmpty then [] else ':' :: authority.password
  let text := authority.username ++ password
  if text.isEmpty then [] else text ++ ['@']

/-- The text of an authority. -/
def chars (authority : Authority) : List Char :=
  let port :=
    match authority.port with
    | none => []
    | some number => ':' :: Number.natText number
  authority.userinfo ++ authority.host.chars ++ port

end Authority

/-- The path of a URL: segments behind slashes, or a text without structure. -/
inductive UrlPath where
  | opaqueText (text : List Char)
  | segments (names : List (List Char))
  deriving Repr, DecidableEq

namespace UrlPath

/-- The text of a path. -/
def chars : UrlPath → List Char
  | .opaqueText text => text
  | .segments names => names.flatMap fun name => '/' :: name

end UrlPath

/-- A URL in normalized parts. -/
structure Url where
  scheme : List Char
  authority : Option Authority
  path : UrlPath
  query : Option (List Char)
  fragment : Option (List Char)
  deriving Repr, DecidableEq

namespace Url

/-- The mark of an authority, or what keeps a path from looking like one. -/
def authorityChars (url : Url) : List Char :=
  match url.authority with
  | some authority => '/' :: '/' :: authority.chars
  | none =>
      match url.path.chars with
      | '/' :: '/' :: _ => ['/', '.']
      | _ => []

/-- An optional part behind its mark. -/
def markedChars (mark : Char) : Option (List Char) → List Char
  | none => []
  | some text => mark :: text

/-- The characters of a URL. -/
def chars (url : Url) : List Char :=
  url.scheme ++
    ':' :: (url.authorityChars ++ url.path.chars ++ markedChars '?' url.query ++
      markedChars '#' url.fragment)

/-- The text of a URL. -/
def text (url : Url) : String :=
  String.ofList url.chars

/-- The host, unless there is none or it is empty. -/
def host? (url : Url) : Option Host :=
  match url.authority with
  | some { host := .empty, .. } => none
  | some authority => some authority.host
  | none => none

/-- The text of the host, if there is one. -/
def hostText? (url : Url) : Option String :=
  url.host?.map fun host => String.ofList host.chars

/-- The decoded pairs of the query. -/
def queryPairs (url : Url) : List (String × String) :=
  decodePairs (url.query.getD [])

/-- The first value of a query parameter. -/
def queryValue?
    (url : Url)
    (name : String) :
    Option String :=
  (url.queryPairs.find? (·.1 = name)).map Prod.snd

/-- Every value of a query parameter, in order. -/
def queryValues
    (url : Url)
    (name : String) :
    List String :=
  (url.queryPairs.filter (·.1 = name)).map Prod.snd

/-- Whether the first value of a query parameter is `true`. -/
def queryFlag
    (url : Url)
    (name : String) :
    Bool :=
  url.queryValue? name = some "true"

/-- Append a pair to the query. -/
def withQueryPair
    (url : Url)
    (name value : String) :
    Url :=
  { url with query := some (appendPair (url.query.getD []) name value) }

end Url

end CatalogSite
