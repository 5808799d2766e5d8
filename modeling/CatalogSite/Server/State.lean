import CatalogSite.Site.Answer

namespace CatalogSite

/-!
# The server

A server holds the live site and a catalog backend. A refresh first lets the backend
pick up new entries and then publishes a site that differs from the live one in its
statistics only; when one of the two steps fails nothing is published.
-/

/-- Why a refresh publishes nothing. -/
inductive RefreshError where
  | catalog (cause : CatalogError)
  | statistics (cause : CatalogError)
  deriving Repr, DecidableEq

/-- The wording of a failed refresh. -/
def RefreshError.message : RefreshError → String
  | .catalog _ => "Failed to refresh catalog"
  | .statistics _ => "Failed to collect catalog statistics"

/-- A running server: the live site and the catalog it is shown with. -/
structure Server where
  site : Site
  backend : CatalogBackend

/-- What a refresh leaves, and why it published nothing if it did not. -/
structure Refreshed where
  server : Server
  failure : Option RefreshError

namespace Server

/-- Put a site in place of the live one. -/
def publish
    (server : Server)
    (site : Site) :
    Server :=
  { server with site }

/-- Refresh the catalog and the statistics at a point in time. -/
def refresh
    [RefusalWords]
    (server : Server)
    (tree : FileTree)
    (time : Timestamp) :
    Refreshed :=
  match server.backend.refresh tree with
  | .error cause => { server, failure := some (.catalog cause) }
  | .ok backend =>
      let next := { server with backend }
      match Statistics.collect backend.catalog time with
      | .error cause => { server := next, failure := some (.statistics cause) }
      | .ok statistics =>
          { server := next.publish (server.site.withStatistics statistics)
            failure := none }

/-- Answer a request with the live site. -/
def answer
    (server : Server)
    (tree : FileTree)
    (request : Http.Request) :
    Response :=
  server.site.answer server.backend.catalog tree request.toClientRequest

end Server

end CatalogSite
