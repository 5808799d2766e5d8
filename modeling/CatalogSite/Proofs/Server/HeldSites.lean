import CatalogSite.Server.Places

namespace CatalogSite

/-!
# Sites that are held

A request keeps the site that it started with, also when another one is published
meanwhile: seen through the live place, a server that swaps the pointer to its site is a
running server, and no step writes to a place that is taken.
-/

namespace PlacedRunning

theorem view_ofRunning
    (running : Running) :
    (ofRunning running).view = running :=
  rfl

theorem view_publish
    (placed : PlacedRunning)
    (statistics : Statistics) :
    (placed.publish statistics).view =
      { server :=
          placed.view.server.publish
            (placed.view.server.site.withStatistics statistics)
        files := placed.files } := by
  simp [publish, view, Server.publish]

theorem sites_prefix_publish
    (placed : PlacedRunning)
    (statistics : Statistics) :
    placed.places.sites <+: (placed.publish statistics).places.sites :=
  List.prefix_append _ _

variable [RefusalWords]

theorem run_append
    (placed : PlacedRunning)
    (earlier later : List ServerEvent) :
    placed.run (earlier ++ later) = (placed.run earlier).run later :=
  List.foldl_append

theorem view_step
    (placed : PlacedRunning)
    (event : ServerEvent) :
    (placed.step event).view = (placed.view.step event).1 := by
  cases event with
  | written path content =>
      rfl
  | deleted path =>
      rfl
  | published statistics =>
      exact view_publish placed statistics
  | requested request =>
      rfl
  | refreshed time =>
      dsimp only [step, refresh, Running.step, Server.refresh, view]
      cases placed.backend.refresh placed.files with
      | error cause =>
          rfl
      | ok backend =>
          dsimp only
          cases Statistics.collect backend.catalog time with
          | error cause =>
              rfl
          | ok statistics =>
              exact view_publish { placed with backend } statistics

/-- Seen through the live place, a run is the run of a server that holds its site. -/
theorem view_run
    (placed : PlacedRunning)
    (events : List ServerEvent) :
    (placed.run events).view = placed.view.run events := by
  induction events generalizing placed with
  | nil =>
      rfl
  | cons event rest inductionHypothesis =>
      have afterEvent := inductionHypothesis (placed.step event)
      rw [view_step] at afterEvent
      exact afterEvent

theorem sites_prefix_step
    (placed : PlacedRunning)
    (event : ServerEvent) :
    placed.places.sites <+: (placed.step event).places.sites := by
  cases event with
  | refreshed time =>
      dsimp only [step, refresh]
      split
      · exact List.prefix_rfl
      · split
        · exact List.prefix_rfl
        · exact sites_prefix_publish _ _
  | published statistics =>
      exact sites_prefix_publish placed statistics
  | written path content =>
      exact List.prefix_rfl
  | deleted path =>
      exact List.prefix_rfl
  | requested request =>
      exact List.prefix_rfl

/-- Places that are taken keep their sites throughout a run. -/
theorem sites_prefix_run
    (placed : PlacedRunning)
    (events : List ServerEvent) :
    placed.places.sites <+: (placed.run events).places.sites := by
  induction events generalizing placed with
  | nil =>
      exact List.prefix_rfl
  | cons event rest inductionHypothesis =>
      have first := sites_prefix_step placed event
      exact first.trans (inductionHypothesis (placed.step event))

/-- The place that was live at some point still holds the site of that point later on. -/
theorem site_held
    (running : Running)
    (earlier later : List ServerEvent) :
    ((ofRunning running).run (earlier ++ later)).places.sites[
        (((ofRunning running).run earlier).places.live : Nat)]? =
      some (running.run earlier).server.site := by
  let held := (ofRunning running).run earlier
  have viewed : held.view = running.run earlier := by
    rw [view_run, view_ofRunning]
  have kept : held.places.sites <+: (held.run later).places.sites :=
    sites_prefix_run held later
  obtain ⟨added, whole⟩ := kept
  rw [run_append]
  change (held.run later).places.sites[(held.places.live : Nat)]? = _
  rw [← whole, ← viewed, List.getElem?_append_left held.places.live.isLt]
  exact List.getElem?_eq_getElem held.places.live.isLt

end PlacedRunning

end CatalogSite
