import CatalogSite.Failure
import CatalogSite.Files.Tree

namespace CatalogSite

/-!
# Responses

A response has a status, a body and a few header fields. A field whose value could
not stand in a header is left out.
-/

/--
Whether a text can be the value of a header field: it holds no control character.
-/
def isHeaderValue (value : String) : Bool :=
  value.toList.all fun c => (0x20 ≤ c.toNat && c.toNat ≠ 0x7F) || c == '\t'

/-- A value for a header field, if it can be one. -/
def headerValue? (value : String) : Option String :=
  if isHeaderValue value then some value else none

/-- The header fields of a response. -/
structure Headers where
  contentType : Option String := none
  contentLanguage : Option String := none
  cacheControl : Option String := none
  setCookie : Option String := none
  deriving Repr, DecidableEq

/-- An answer to a request. -/
structure Response where
  status : Status
  headers : Headers
  body : FileContent
  deriving DecidableEq

/-- The content type of pages. -/
def htmlContentType : String := "text/html; charset=UTF-8"

namespace Response

/-- A page. -/
def html
    (status : Status)
    (body : String) :
    Response where
  status := status
  headers := { contentType := headerValue? htmlContentType }
  body := .text body

/-- Say in which language a response is. -/
def inLanguage
    (response : Response)
    (language : String) :
    Response :=
  { response with
    headers := { response.headers with contentLanguage := headerValue? language } }

/-- A content of some type. -/
def ofContent
    (contentType : String)
    (body : FileContent) :
    Response where
  status := .ok
  headers := { contentType := headerValue? contentType }
  body := body

end Response

end CatalogSite
