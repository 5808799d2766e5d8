import CatalogSite.Preview.EnvironmentFile
import CatalogSite.Site.Answer
import CatalogSite.Site.Load

namespace CatalogSite.Preview

/-!
# Previews

The preview command answers one request from the files of the working directory, for
a path on the first allowed host and possibly in a given language, and shows status
and body. It asks as a local client without cookies.
-/

/-- Why there is no preview. -/
inductive Failure where
  | load (cause : LoadError)
  | catalog (path : String) (cause : CatalogError)
  | statistics (cause : CatalogError)
  | invalidHost
  | invalidPath (target : String)
  deriving Repr, DecidableEq

/-- The wording of a failure. -/
def Failure.message : Failure → String
  | .load cause => cause.message
  | .catalog path _ => "Failed to open catalog " ++ path
  | .statistics cause => cause.message
  | .invalidHost => "Invalid access host"
  | .invalidPath target => "Invalid preview path " ++ target

/-- The line that reports a failure. -/
def Failure.report (failure : Failure) : String :=
  "Error: " ++ failure.message

/-- What a preview shows. -/
structure Shown where
  url : Url
  response : Response

namespace Shown

/-- The line that tells the status and the address. -/
def statusLine (shown : Shown) : String :=
  shown.response.status.text ++ " " ++ shown.url.text

/-- The body, ill-formed bytes being replaced. -/
def body (shown : Shown) : String :=
  match shown.response.body with
  | .text content => content
  | .binary bytes => String.ofList (Text.decodeLossy bytes)

end Shown

/-- The file with variables for the environment. -/
def environmentPath : String := ".env"

/-- The configuration file. -/
def configPath : String := "config.json"

/--
The environment of a preview: the given one, completed by the environment file.
-/
def environmentOf
    (tree : FileTree)
    (environment : Environment) :
    Environment :=
  match tree.content? environmentPath with
  | some content => EnvironmentFile.apply environment content.bytes
  | none => environment

/-- The address that a preview asks for. -/
def address
    (config : Config)
    (target : String)
    (language : Option String) :
    Except Failure Url :=
  match Url.parse ("http://" ++ config.accessHosts.headD "localhost" ++ "/") with
  | .error _ => .error .invalidHost
  | .ok base =>
      match Url.join base target with
      | .error _ => .error (.invalidPath target)
      | .ok url =>
          match language with
          | none => .ok url
          | some language => .ok (url.withQueryPair languageKey language)

/-- The request of a preview. -/
def request (url : Url) : ClientRequest where
  address := "127.0.0.1"
  userAgent := "preview"
  url := url.text
  cookies := none

/--
Run the command with its arguments at a point in time.

The arguments are a target and a language.
-/
def run
    [RefusalWords]
    (tree : FileTree)
    (environment : Environment)
    (arguments : List String)
    (time : Timestamp) :
    Except Failure Shown := do
  let config ←
    (Config.load tree configPath (environmentOf tree environment)).mapError
      .load
  let store ←
    (GameStore.openFile tree config.catalogFile).mapError
      (.catalog config.catalogFile)
  let statistics ← (Statistics.collect store.catalog time).mapError .statistics
  let site ← (Site.load tree config statistics).mapError .load
  let url ← address site.config (arguments.headD "/") (arguments.drop 1).head?
  .ok { url, response := site.answer store.catalog tree (request url) }

end CatalogSite.Preview
