import CatalogSite.Server.State

namespace CatalogSite

/-!
# Runs of a server

A server runs beside a disk that changes under it. A run is a sequence of events;
what one event does depends on the server and the disk, and what it shows is its
outcome. Requests show a response and change nothing.
-/

/-- A server beside its disk. -/
structure Running where
  server : Server
  files : FileTree

/-- Something that happens to a running server. -/
inductive ServerEvent where
  | written (path : String) (content : FileContent)
  | deleted (path : String)
  | refreshed (time : Timestamp)
  | published (statistics : Statistics)
  | requested (request : Http.Request)

/-- What an event shows. -/
inductive ServerOutcome where
  | silent
  | statistics (figures : Statistics)
  | failed (cause : RefreshError)
  | response (answer : Response)

namespace Running

variable [RefusalWords]

/-- What an event does, and what it shows. -/
def step
    (running : Running) :
    ServerEvent → Running × ServerOutcome
  | .written path content =>
      ({ running with files := running.files.write path content }, .silent)
  | .deleted path =>
      ({ running with files := running.files.remove path }, .silent)
  | .refreshed time =>
      let result := running.server.refresh running.files time
      ({ running with server := result.server },
        match result.failure with
        | some cause => .failed cause
        | none => .statistics result.server.site.statistics)
  | .published statistics =>
      let site := running.server.site.withStatistics statistics
      ({ running with server := running.server.publish site }, .silent)
  | .requested request =>
      (running, .response (running.server.answer running.files request))

/-- What a sequence of events leaves. -/
def run
    (running : Running)
    (events : List ServerEvent) :
    Running :=
  events.foldl (fun running event => (running.step event).1) running

end Running

end CatalogSite
