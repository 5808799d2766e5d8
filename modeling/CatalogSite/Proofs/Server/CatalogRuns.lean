import CatalogSite.Proofs.Server.HeldSites
import CatalogSite.Proofs.Site.Assembled
import CatalogSite.Proofs.Site.Loaded

namespace CatalogSite

/-!
# Runs of a server on a catalog file

A server keeps the entries of its catalog file in one place and their figures in
another, and a refresh sets them one after the other. They stay in step all the same:
whatever happens to the disk in between, both come from the last reading of the file
that succeeded, and what fails leaves both alone. A state of this kind is determined by
a site, a disk and a reading, so that a run needs to be followed in these only.
-/

/-- Entries, and the time at which they were read. -/
structure Reading where
  games : List Game
  time : Timestamp

/-- What a catalog file says at present: no entries, if it is missing. -/
def FileTree.catalogGames
    [RefusalWords]
    (tree : FileTree)
    (path : String) :
    Except CatalogError (List Game) :=
  match tree.readText path with
  | .ok text => GameStore.readGames text
  | .error .missing => .ok []
  | .error reason => .error (.io reason.detail)

def Statistics.ofReading
    (reading : Reading) :
    Statistics where
  platforms := GameStore.platformNames reading.games
  totalGames := reading.games.length
  refreshedAt := reading.time

namespace ServerEvent

/-- What an event does to the disk. -/
def change
    (tree : FileTree) :
    ServerEvent → FileTree
  | .written path content => tree.write path content
  | .deleted path => tree.remove path
  | .refreshed _ | .published _ | .requested _ => tree

/-- What an event reads from the catalog file, if it reads it successfully. -/
def reads?
    [RefusalWords]
    (path : String)
    (tree : FileTree) :
    ServerEvent → Option Reading
  | .refreshed time =>
      (tree.catalogGames path).toOption.map fun games => ⟨games, time⟩
  | .written _ _ | .deleted _ | .published _ | .requested _ => none

/-- Whether a site is published without a refresh. -/
def isPublication : ServerEvent → Bool
  | .published _ => true
  | .written _ _ | .deleted _ | .refreshed _ | .requested _ => false

/-- Whether an event leaves the server alone. -/
def isOutside : ServerEvent → Bool
  | .published _ | .refreshed _ => false
  | .written _ _ | .deleted _ | .requested _ => true

theorem isPublication_of_isOutside
    {event : ServerEvent}
    (outside : event.isOutside = true) :
    event.isPublication = false := by
  cases event with
  | published statistics =>
      cases outside
  | _ =>
      rfl

end ServerEvent

namespace FileTree

variable {tree : FileTree} {path : String} {event : ServerEvent}
  {events rest : List ServerEvent} {opened reading : Reading}

/-- What events leave of a disk. -/
def after
    (tree : FileTree)
    (events : List ServerEvent) :
    FileTree :=
  events.foldl ServerEvent.change tree

variable [RefusalWords]

/-- No refresh among the events finds a catalog file that it can read. -/
def RefreshesFail
    (tree : FileTree)
    (path : String)
    (events : List ServerEvent) : Prop :=
  ∀ before time later,
    events = before ++ .refreshed time :: later →
      ∃ cause, (tree.after before).catalogGames path = .error cause

/-- The reading of the last refresh that succeeds, or else the one at the opening. -/
inductive LastRead
    (tree : FileTree)
    (path : String)
    (opened : Reading)
    (events : List ServerEvent) :
    Reading → Prop where
  | opening
      (failing : tree.RefreshesFail path events) :
      LastRead tree path opened events opened
  | refresh
      {before later : List ServerEvent}
      {time : Timestamp}
      {games : List Game}
      (split : events = before ++ .refreshed time :: later)
      (reads : (tree.after before).catalogGames path = .ok games)
      (failing : (tree.after before).RefreshesFail path later) :
      LastRead tree path opened events ⟨games, time⟩

theorem catalogGames_congr
    {other : FileTree}
    (sameEntry : tree.entry path = other.entry path) :
    tree.catalogGames path = other.catalogGames path := by
  simp only [catalogGames, readText, sameEntry]

theorem refreshesFail_nil :
    tree.RefreshesFail path [] := by
  intro before time later split
  cases before <;> cases split

theorem refreshesFail_cons
    (readsNothing : event.reads? path tree = none)
    (failing : (event.change tree).RefreshesFail path rest) :
    tree.RefreshesFail path (event :: rest) := by
  intro before time later split
  cases before with
  | nil =>
      cases split
      cases present : tree.catalogGames path with
      | ok games =>
          simp [ServerEvent.reads?, present] at readsNothing
          cases readsNothing
      | error cause =>
          exact ⟨cause, present⟩
  | cons first more =>
      obtain ⟨rfl, restSplit⟩ := List.cons.inj split
      exact failing more time later restSplit

theorem lastRead_cons
    (last :
      (event.change tree).LastRead path
        ((event.reads? path tree).getD opened) rest reading) :
    tree.LastRead path opened (event :: rest) reading := by
  cases last with
  | @refresh before later time games split reads failing =>
      have whole :
          event :: rest = (event :: before) ++ .refreshed time :: later := by
        rw [split, List.cons_append]
      exact .refresh whole reads failing
  | opening failing =>
      cases found : event.reads? path tree with
      | none =>
          exact .opening (refreshesFail_cons found failing)
      | some here =>
          cases event with
          | refreshed time =>
              obtain ⟨games, isOk, rfl⟩ := Option.map_eq_some_iff.mp found
              have reads : tree.catalogGames path = .ok games :=
                eq_ok_of_toOption_eq_some isOk
              have whole :
                  ServerEvent.refreshed time :: rest =
                    [] ++ .refreshed time :: rest :=
                rfl
              have readsFirst :
                  (tree.after []).catalogGames path = .ok games :=
                reads
              exact .refresh whole readsFirst failing
          | _ =>
              cases found

end FileTree

namespace GameStore

variable [RefusalWords]

/-- Refreshing what comes from a file is reading the file. -/
theorem refresh_eq
    (tree : FileTree)
    (path : String)
    (games : List Game) :
    GameStore.refresh ⟨some path, games⟩ tree =
      (tree.catalogGames path).map fun read => ⟨some path, read⟩ := by
  unfold refresh FileTree.catalogGames
  dsimp only
  cases tree.readText path with
  | ok text =>
      rfl
  | error cause =>
      cases cause <;> rfl

theorem path_of_openFile
    {tree : FileTree}
    {path : String}
    {store : GameStore}
    (opens : openFile tree path = .ok store) :
    store.path = some path := by
  unfold openFile at opens
  split at opens
  · split at opens
    · rename_i text _
      cases read : readGames text with
      | ok games =>
          rw [read] at opens
          cases opens
          rfl
      | error cause =>
          rw [read] at opens
          cases opens
    · cases opens
  · cases opens
    rfl

end GameStore

/-- The server that shows a reading of a catalog file. -/
def Server.showing
    (site : Site)
    (path : String)
    (reading : Reading) :
    Server where
  site := site.withStatistics (.ofReading reading)
  backend := .store ⟨some path, reading.games⟩

/-- The same server, its figures collected at another time. -/
def Server.retimed
    (server : Server)
    (time : Timestamp) :
    Server :=
  server.publish
    (server.site.withStatistics
      { server.site.statistics with refreshedAt := time })

theorem Server.refresh_showing
    [RefusalWords]
    (site : Site)
    (path : String)
    (reading : Reading)
    (tree : FileTree)
    (time : Timestamp) :
    (Server.showing site path reading).refresh tree time =
      match tree.catalogGames path with
      | .ok games => ⟨.showing site path ⟨games, time⟩, none⟩
      | .error cause =>
          ⟨.showing site path reading, some (.catalog cause)⟩ := by
  have stored :
      (Server.showing site path reading).backend.refresh tree =
        (tree.catalogGames path).map
          fun games => .store ⟨some path, games⟩ := by
    dsimp only [showing, CatalogBackend.refresh]
    rw [GameStore.refresh_eq]
    cases tree.catalogGames path <;> rfl
  unfold refresh
  rw [stored]
  cases tree.catalogGames path <;> rfl

namespace Running

variable {site : Site} {path : String} {tree : FileTree}
  {reading : Reading} {event : ServerEvent} {events : List ServerEvent}

/-- A server that shows a reading, beside a disk. -/
def showing
    (site : Site)
    (path : String)
    (reading : Reading)
    (tree : FileTree) :
    Running where
  server := .showing site path reading
  files := tree

section Run

variable [RefusalWords]

theorem files_step
    (running : Running)
    (event : ServerEvent) :
    (running.step event).1.files = event.change running.files := by
  cases event <;> rfl

/-- The disk changes by the events alone, whatever the server does. -/
theorem files_run
    (running : Running)
    (events : List ServerEvent) :
    (running.run events).files = running.files.after events := by
  induction events generalizing running with
  | nil =>
      rfl
  | cons event rest inductionHypothesis =>
      have afterEvent := inductionHypothesis (running.step event).1
      rw [files_step] at afterEvent
      exact afterEvent

theorem step_showing
    (unpublished : event.isPublication = false) :
    ((showing site path reading tree).step event).1 =
      showing site path ((event.reads? path tree).getD reading)
        (event.change tree) := by
  cases event with
  | written target content =>
      rfl
  | deleted target =>
      rfl
  | requested request =>
      rfl
  | published statistics =>
      cases unpublished
  | refreshed time =>
      simp only [step, showing, Server.refresh_showing,
        ServerEvent.reads?, ServerEvent.change]
      cases tree.catalogGames path <;> rfl

/-- What a run shows is the last reading that succeeded, and nothing else has changed. -/
theorem exists_run_showing
    (unpublished : ∀ event ∈ events, event.isPublication = false) :
    ∃ last,
      tree.LastRead path reading events last ∧
        (showing site path reading tree).run events =
          showing site path last (tree.after events) := by
  induction events generalizing tree reading with
  | nil =>
      exact ⟨reading, .opening FileTree.refreshesFail_nil, rfl⟩
  | cons event rest inductionHypothesis =>
      have restUnpublished : ∀ event ∈ rest, event.isPublication = false := by
        intro other member
        exact unpublished other (List.mem_cons_of_mem event member)
      have stepped :
          ((showing site path reading tree).step event).1 =
            showing site path ((event.reads? path tree).getD reading)
              (event.change tree) :=
        step_showing (unpublished event List.mem_cons_self)
      obtain ⟨last, lastRead, runs⟩ := inductionHypothesis restUnpublished
      refine ⟨last, FileTree.lastRead_cons lastRead, ?_⟩
      change ((showing site path reading tree).step event).1.run rest = _
      rw [stepped]
      exact runs

/-- Without a refresh there is no reading but the first. -/
theorem run_showing_of_outside
    (outside : ∀ event ∈ events, event.isOutside = true) :
    (showing site path reading tree).run events =
      showing site path reading (tree.after events) := by
  have unpublished : ∀ event ∈ events, event.isPublication = false := by
    intro event member
    exact ServerEvent.isPublication_of_isOutside (outside event member)
  obtain ⟨last, lastRead, runs⟩ :=
    exists_run_showing unpublished
  cases lastRead with
  | opening failing =>
      exact runs
  | @refresh before later time games split reads failing =>
      have member : ServerEvent.refreshed time ∈ events := by
        rw [split]
        exact List.mem_append_right before List.mem_cons_self
      cases outside _ member

/--
After some events, a server that was started on a catalog file is in step with it: the
figures are those of the entries, and the entries are those of the last reading.
-/
structure InStep
    (start : Running)
    (path : String)
    (opened : Reading)
    (events : List ServerEvent) : Prop where
  figures :
    let now := (start.run events).server
    Statistics.collect now.backend.catalog now.site.statistics.refreshedAt =
      .ok now.site.statistics
  entries :
    ∃ reading,
      start.files.LastRead path opened events reading ∧
        (start.run events).server.backend =
          .store ⟨some path, reading.games⟩ ∧
        (start.run events).server.site.statistics.refreshedAt =
          reading.time
  /-- A refresh that cannot read the file changes nothing. -/
  failure :
    ∀ time cause,
      (start.run events).files.catalogGames path = .error cause →
        (start.run events).step (.refreshed time) =
          (start.run events, .failed (.catalog cause))
  /-- A refresh that can read the file does not fail. -/
  success :
    ∀ time games,
      (start.run events).files.catalogGames path = .ok games →
        ((start.run events).step (.refreshed time)).2 =
          .statistics (.ofReading ⟨games, time⟩)
  /-- The next refresh of an unchanged file changes only the time. -/
  repetition :
    ∀ first between second,
      (∀ event ∈ between, event.isOutside = true) →
        let once := ((start.run events).step (.refreshed first)).1
        let later := once.run between
        let again := (later.step (.refreshed second)).1
        later.files.entry path = (start.run events).files.entry path →
          again.server =
            once.server.retimed again.server.site.statistics.refreshedAt
  /-- Nothing but the figures ever differs from the first site. -/
  parts :
    (start.run events).server.site =
      start.server.site.withStatistics
        (start.run events).server.site.statistics
  /-- The site that was live at an earlier point is still in its place. -/
  held :
    ∀ earlier later,
      events = earlier ++ later →
        let placed := PlacedRunning.ofRunning start
        (placed.run events).view = start.run events ∧
          (placed.run events).places.sites[
              ((placed.run earlier).places.live : Nat)]? =
            some (start.run earlier).server.site

theorem step_refreshed_of_error
    {cause : CatalogError}
    (time : Timestamp)
    (fails : tree.catalogGames path = .error cause) :
    (showing site path reading tree).step (.refreshed time) =
      (showing site path reading tree, .failed (.catalog cause)) := by
  simp only [step, showing, Server.refresh_showing, fails]

theorem step_refreshed_of_ok
    {games : List Game}
    (time : Timestamp)
    (reads : tree.catalogGames path = .ok games) :
    (showing site path reading tree).step (.refreshed time) =
      (showing site path ⟨games, time⟩ tree,
        .statistics (.ofReading ⟨games, time⟩)) := by
  simp only [step, showing, Server.refresh_showing, reads]
  rfl

/-- The second of two refreshes that find the same file changes only the time. -/
theorem retimed_of_sameEntry
    {between : List ServerEvent}
    {first second : Timestamp}
    (outside : ∀ event ∈ between, event.isOutside = true)
    (sameEntry :
      (tree.after between).entry path = tree.entry path) :
    let once :=
      ((showing site path reading tree).step (.refreshed first)).1
    let again := ((once.run between).step (.refreshed second)).1
    again.server =
      once.server.retimed again.server.site.statistics.refreshedAt := by
  have sameGames :
      (tree.after between).catalogGames path = tree.catalogGames path :=
    FileTree.catalogGames_congr sameEntry
  cases present : tree.catalogGames path with
  | error cause =>
      rw [present] at sameGames
      simp only [step_refreshed_of_error _ present,
        run_showing_of_outside outside,
        step_refreshed_of_error _ sameGames]
      rfl
  | ok games =>
      rw [present] at sameGames
      simp only [step_refreshed_of_ok _ present,
        run_showing_of_outside outside,
        step_refreshed_of_ok _ sameGames]
      rfl

/-- A server that shows a reading stays in step with its file. -/
theorem inStep_showing
    (unpublished : ∀ event ∈ events, event.isPublication = false) :
    (showing site path reading tree).InStep path reading events := by
  obtain ⟨last, lastRead, runs⟩ :=
    exists_run_showing unpublished
  refine
    { figures := ?_
      entries := ?_
      failure := ?_
      success := ?_
      repetition := ?_
      parts := ?_
      held := ?_ }
  · rw [runs]
    rfl
  · rw [runs]
    exact ⟨last, lastRead, rfl, rfl⟩
  · rw [runs]
    intro time cause fails
    exact step_refreshed_of_error time fails
  · rw [runs]
    intro time games reads
    exact congrArg Prod.snd (step_refreshed_of_ok time reads)
  · rw [runs]
    intro first between second outside once later again sameEntry
    have laterFiles :
        later.files = (tree.after events).after between :=
      files_run once between
    rw [laterFiles] at sameEntry
    exact retimed_of_sameEntry outside sameEntry
  · rw [runs]
    rfl
  · intro earlier later split placed
    refine ⟨PlacedRunning.view_run placed events, ?_⟩
    rw [split]
    exact PlacedRunning.site_held _ earlier later

theorem eq_showing_of_opened
    {opened : FileTree}
    {store : GameStore}
    {time : Timestamp}
    {start : Running}
    (opens : GameStore.openFile opened path = .ok store)
    (holds : start.server.backend = .store store)
    (collected :
      Statistics.collect store.catalog time =
        .ok start.server.site.statistics) :
    start =
      showing start.server.site path ⟨store.games, time⟩ start.files := by
  obtain ⟨from?, games⟩ := store
  obtain rfl : from? = some path := GameStore.path_of_openFile opens
  obtain ⟨⟨site, backend⟩, files⟩ := start
  obtain rfl : backend = .store ⟨some path, games⟩ := holds
  have figures :
      Statistics.ofReading ⟨games, time⟩ = site.statistics :=
    Except.ok.inj collected
  unfold showing Server.showing
  rw [figures]
  rfl

/--
A server that is started on an opened catalog file, with the figures of its entries,
stays in step with the file.
-/
theorem inStep_run
    {opened : FileTree}
    {store : GameStore}
    {time : Timestamp}
    {start : Running}
    (opens : GameStore.openFile opened path = .ok store)
    (holds : start.server.backend = .store store)
    (collected :
      Statistics.collect store.catalog time =
        .ok start.server.site.statistics)
    (unpublished : ∀ event ∈ events, event.isPublication = false) :
    start.InStep path ⟨store.games, time⟩ events := by
  have shown := eq_showing_of_opened opens holds collected
  rw [shown]
  exact inStep_showing unpublished

end Run

/-- A game is read, and stays when the file is spoilt and then deleted. -/
theorem inStep_run_spoilt :
    let _ : RefusalWords :=
      ⟨fun _ => "EOF while parsing a list at line 1 column 1"⟩
    let path := "data/catalog.json"
    let store : GameStore := ⟨some path, []⟩
    let start : Running :=
      { server := { site := Site.smallSite, backend := .store store }
        files := Site.smallDisk }
    let game : Json :=
      .object [("id", .ofString "a"), ("title", .ofString "Alpha")]
    let events : List ServerEvent :=
      [.written path (.text (Json.array [game]).text),
        .refreshed ⟨1, 0⟩,
        .written path (.text "["),
        .refreshed ⟨2, 0⟩,
        .requested ⟨.origin "/news", [], none⟩,
        .deleted path]
    GameStore.openFile Site.smallDisk path = .ok store ∧
      Statistics.collect store.catalog .epoch =
        .ok start.server.site.statistics ∧
      (∀ event ∈ events, event.isPublication = false) ∧
      start.InStep path ⟨store.games, .epoch⟩ events ∧
      (start.run events).server.site.statistics.totalGames = 1 := by
  intro words path store start game events
  have opens : GameStore.openFile Site.smallDisk path = .ok store := by
    apply eq_ok_of_toOption_eq_some
    decide +kernel
  have collected :
      Statistics.collect store.catalog .epoch =
        .ok start.server.site.statistics := by
    apply eq_ok_of_toOption_eq_some
    decide +kernel
  have unpublished : ∀ event ∈ events, event.isPublication = false := by
    simp [events, ServerEvent.isPublication]
  refine ⟨opens, collected, unpublished, ?_, ?_⟩
  · exact inStep_run opens rfl collected unpublished
  · decide +kernel

end Running

end CatalogSite
