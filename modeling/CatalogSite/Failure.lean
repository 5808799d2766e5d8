import CatalogSite.Catalog.Store
import CatalogSite.Setup
import CatalogSite.Url.Error

namespace CatalogSite

/-!
# Failures of requests

A request fails because it is refused, because nothing is found for it, or
because of a fault of the site. The status of the answer and the words shown to
the client depend on which of the three it is, and on nothing else.
-/

/-- Why a request is refused. -/
inductive Refusal where
  | malformedUrl (text : String) (cause : UrlError)
  | disallowedHost (host : String)
  | other (reason : String)
  deriving Repr, DecidableEq

/-- What went wrong in the site itself. -/
inductive Fault where
  | missingTemplate (namespaceName : String)
  | missingFragment (name : String)
  | unservedEndpoint (handler url : String)
  | unreadableFile (path : String)
  | malformedUrl (text : String) (cause : UrlError)
  | catalog (cause : CatalogError)
  | other (detail : String)
  deriving Repr, DecidableEq

/-- Why a request fails. -/
inductive RequestError where
  | refused (reason : Refusal)
  | notFound (url language : String)
  | internal (fault : Fault)
  deriving Repr, DecidableEq

/-- The statuses that answers have. -/
inductive Status where
  | ok
  | badRequest
  | notFound
  | internalError
  deriving Repr, DecidableEq

namespace Status

/-- The number of a status. -/
def code : Status → Nat
  | .ok => 200
  | .badRequest => 400
  | .notFound => 404
  | .internalError => 500

/-- The phrase that goes with the number. -/
def reason : Status → String
  | .ok => "OK"
  | .badRequest => "Bad Request"
  | .notFound => "Not Found"
  | .internalError => "Internal Server Error"

/-- Number and phrase. -/
def text (status : Status) : String :=
  toString status.code ++ " " ++ status.reason

end Status

/-- The wording of a catalog failure. -/
def CatalogError.message : CatalogError → String
  | .io detail => "failed to read catalog: " ++ detail
  | .malformed detail => "failed to parse catalog: " ++ detail
  | .backend detail => "catalog backend error: " ++ detail

/-- The wording of a refusal. -/
def Refusal.message : Refusal → String
  | .malformedUrl text cause => text ++ ": " ++ cause.message
  | .disallowedHost host => "host " ++ host ++ " is not allowed"
  | .other reason => reason

/-- The wording of a fault, the outermost cause first. -/
def Fault.causes : Fault → List String
  | .missingTemplate namespaceName =>
      ["no template loaded for namespace " ++ quoted namespaceName]
  | .missingFragment name =>
      ["search template fragment " ++ quoted name ++ " is not loaded"]
  | .unservedEndpoint handler url =>
      [handler ++ " handler cannot serve endpoint " ++ url]
  | .unreadableFile path => ["Failed to read static file " ++ path]
  | .malformedUrl text cause => [text ++ ": " ++ cause.message]
  | .catalog cause => ["Catalog query failed", cause.message]
  | .other detail => [detail]

namespace RequestError

/-- The status of the answer to a failed request. -/
def status : RequestError → Status
  | .refused _ => .badRequest
  | .notFound .. => .notFound
  | .internal _ => .internalError

/-- Whether a failure is shown inside the localized shell. -/
def isLocalized : RequestError → Bool
  | .notFound .. => true
  | _ => false

/-- What the client is told. -/
def description : RequestError → String
  | .refused _ => "The requested URL is invalid."
  | .notFound .. => "The requested URL does not exist."
  | .internal _ => "The server encountered an error while handling the request."

/-- The causes of a failure in words, the outermost first. -/
def causes : RequestError → List String
  | .refused reason => ["bad request: " ++ reason.message]
  | .notFound url _ => ["not found: " ++ url]
  | .internal fault => fault.causes

/-- The outermost cause in words. -/
def message (error : RequestError) : String :=
  error.causes.headD ""

/-- All causes in words, joined. -/
def fullMessage (error : RequestError) : String :=
  Text.joinWith ": " error.causes

end RequestError

/-- A catalog query as a step of answering a request. -/
def Catalog.lift
    {α : Type}
    (result : Except CatalogError α) :
    Except RequestError α :=
  result.mapError fun cause => .internal (.catalog cause)

@[simp] theorem Catalog.lift_ok
    {α : Type}
    (value : α) :
    Catalog.lift (.ok value) = .ok value :=
  rfl

@[simp] theorem Catalog.lift_error
    {α : Type}
    (cause : CatalogError) :
    (Catalog.lift (.error cause) : Except RequestError α) =
      .error (.internal (.catalog cause)) :=
  rfl

end CatalogSite
