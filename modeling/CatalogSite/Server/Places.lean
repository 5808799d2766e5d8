import CatalogSite.Server.Run

namespace CatalogSite

/-!
# The places of live sites

A server that is asked many things at once shares its live site. It holds a
pointer to the site, and publishing swaps the pointer: another site gets a place
of its own, and the pointer turns to this place in a single step. What the
pointer turned to before is left as it is, and a request that has followed the
pointer keeps to the place that it found. Here the places are numbered in the
order in which they were live.
-/

/-- All sites that have been live, and the place of the one that is. -/
structure SitePlaces where
  sites : List Site
  live : Fin sites.length

namespace SitePlaces

/-- The site that the pointer turns to. -/
def current
    (places : SitePlaces) :
    Site :=
  places.sites[places.live]

/-- Swap the live site for another one, which takes a place of its own. -/
def swap
    (places : SitePlaces)
    (site : Site) :
    SitePlaces where
  sites := places.sites ++ [site]
  live := ⟨places.sites.length, by simp⟩

@[simp]
theorem current_swap
    (places : SitePlaces)
    (site : Site) :
    (places.swap site).current = site := by
  simp [current, swap]

end SitePlaces

/-- A running server that knows its site by the place. -/
structure PlacedRunning where
  places : SitePlaces
  backend : CatalogBackend
  files : FileTree

namespace PlacedRunning

/-- A running server whose site is the first one that is live. -/
def ofRunning
    (running : Running) :
    PlacedRunning where
  places :=
    { sites := [running.server.site]
      live := ⟨0, by simp⟩ }
  backend := running.server.backend
  files := running.files

/-- The running server that is seen through the live place. -/
def view
    (placed : PlacedRunning) :
    Running where
  server :=
    { site := placed.places.current
      backend := placed.backend }
  files := placed.files

/-- Swap the live site for the same site with other statistics. -/
def publish
    (placed : PlacedRunning)
    (statistics : Statistics) :
    PlacedRunning :=
  { placed with
    places :=
      placed.places.swap
        (placed.places.current.withStatistics statistics) }

section Run

variable [RefusalWords]

/-- Refresh the catalog, and publish the statistics of a point in time. -/
def refresh
    (placed : PlacedRunning)
    (time : Timestamp) :
    PlacedRunning :=
  match placed.backend.refresh placed.files with
  | .error _ => placed
  | .ok backend =>
      match Statistics.collect backend.catalog time with
      | .error _ => { placed with backend }
      | .ok statistics => { placed with backend }.publish statistics

/-- What an event does to the places, the catalog and the disk. -/
def step
    (placed : PlacedRunning) :
    ServerEvent → PlacedRunning
  | .written path content =>
      { placed with files := placed.files.write path content }
  | .deleted path =>
      { placed with files := placed.files.remove path }
  | .refreshed time => placed.refresh time
  | .published statistics => placed.publish statistics
  | .requested _ => placed

/-- What a sequence of events leaves. -/
def run
    (placed : PlacedRunning)
    (events : List ServerEvent) :
    PlacedRunning :=
  events.foldl step placed

end Run

end PlacedRunning

end CatalogSite
