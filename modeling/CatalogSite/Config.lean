import CatalogSite.Files.Tree
import CatalogSite.Json.Decode
import CatalogSite.Json.Reader
import CatalogSite.Setup

namespace CatalogSite

/-!
# Configuration

Every setting has a default. A configuration file changes some of them, and three
variables of the environment come last.
-/

/-- The settings of a site. -/
structure Config where
  httpPort : Nat := 8080
  hostName : String := "0.0.0.0"
  accessHosts : List String := []
  blockedIPs : List String := []
  blockedUAs : List String := []
  logFile : Option String := none
  logToConsole : Bool := true
  logBlockedRequests : Bool := true
  catalogFile : String := "data/catalog.json"
  dataDir : String := "data"
  localesDir : String := "locales"
  templatesDir : String := "templates"
  staticDir : String := "static"
  imageUrl : String := "https://infinity.unstable.life/images"
  pageSize : Nat := 100
  defaultLang : String := "en-US"
  siteName : String := "Flashpoint Archive"
  cacheMaxAge : Nat := 14400
  statsRefreshSchedule : String := "0 0 * * * *"
  deriving Repr, DecidableEq

/-- The variables of the environment. -/
abbrev Environment :=
  List (String × String)

namespace Config

/-- The settings that nothing changes. -/
def defaults : Config := {}

/-- The names of the settings, in order. -/
def fieldNames : List String :=
  ["httpPort", "hostName", "accessHosts", "blockedIPs", "blockedUAs", "logFile",
    "logToConsole", "logBlockedRequests", "catalogFile", "dataDir", "localesDir",
    "templatesDir", "staticDir", "imageUrl", "pageSize", "defaultLang", "siteName",
    "cacheMaxAge", "statsRefreshSchedule"]

/-- Read the settings of a document, the others being the defaults. -/
def ofJson? (document : Json) : Option Config := do
  let text := Json.orDefault Json.text?
  let texts := Json.orDefault Json.texts?
  let flag := Json.orDefault Json.bool?
  let word (bits : Nat) := Json.orDefault (Json.nat? (Nat.pow 2 bits - 1))
  match ← document.fields? fieldNames with
  | [httpPort, hostName, accessHosts, blockedIPs, blockedUAs, logFile, logToConsole,
      logBlockedRequests, catalogFile, dataDir, localesDir, templatesDir,
      staticDir, imageUrl, pageSize, defaultLang, siteName, cacheMaxAge,
      statsRefreshSchedule] =>
      some {
        httpPort := ← word 16 defaults.httpPort httpPort
        hostName := ← text defaults.hostName hostName
        accessHosts := ← texts defaults.accessHosts accessHosts
        blockedIPs := ← texts defaults.blockedIPs blockedIPs
        blockedUAs := ← texts defaults.blockedUAs blockedUAs
        logFile :=
          ← Json.orDefault (Json.optional Json.text?) defaults.logFile logFile
        logToConsole := ← flag defaults.logToConsole logToConsole
        logBlockedRequests := ← flag defaults.logBlockedRequests logBlockedRequests
        catalogFile := ← text defaults.catalogFile catalogFile
        dataDir := ← text defaults.dataDir dataDir
        localesDir := ← text defaults.localesDir localesDir
        templatesDir := ← text defaults.templatesDir templatesDir
        staticDir := ← text defaults.staticDir staticDir
        imageUrl := ← text defaults.imageUrl imageUrl
        pageSize := ← word 64 defaults.pageSize pageSize
        defaultLang := ← text defaults.defaultLang defaultLang
        siteName := ← text defaults.siteName siteName
        cacheMaxAge := ← word 32 defaults.cacheMaxAge cacheMaxAge
        statsRefreshSchedule :=
          ← text defaults.statsRefreshSchedule statsRefreshSchedule
      }
  | _ => none

/-- The value of a variable. -/
def lookUp?
    (environment : Environment)
    (name : String) :
    Option String :=
  (environment.find? (·.1 = name)).map Prod.snd

/-- Read a port number, possibly behind a plus sign. -/
def portOfText? (text : String) : Option Nat :=
  let digits :=
    match text.toList with
    | '+' :: rest => rest
    | other => other
  if digits.isEmpty || !digits.all Char.isDigit then none
  else
    let port := digitsValue digits
    if port ≤ 65535 then some port else none

/-- Let the environment change a configuration. -/
def withEnvironment
    (config : Config)
    (environment : Environment) :
    Except LoadError Config := do
  let httpPort ←
    match lookUp? environment "HTTP_PORT" with
    | none => .ok config.httpPort
    | some text =>
        match portOfText? text with
        | some port => .ok port
        | none => .error .invalidPort
  .ok {
    config with
    httpPort
    hostName := (lookUp? environment "HOST_NAME").getD config.hostName
    defaultLang := (lookUp? environment "DEFAULT_LANG").getD config.defaultLang
  }

/-- Load a configuration file, if there is one, and apply the environment. -/
def load
    (tree : FileTree)
    (path : String)
    (environment : Environment) :
    Except LoadError Config := do
  let config ←
    if tree.isFile path then
      match tree.text? path with
      | none => .error (.unreadableConfig path)
      | some text =>
          match (Json.ofText? text).bind ofJson? with
          | some config => .ok config
          | none => .error (.malformedConfig path)
    else
      .ok defaults
  config.withEnvironment environment

/-- The file that declares the pages. -/
def pagesFile (config : Config) : String :=
  Path.join config.dataDir "pages.json"

/-- The file that declares the endpoints. -/
def endpointsFile (config : Config) : String :=
  Path.join config.dataDir "endpoints.json"

/-- The file that declares the languages. -/
def localesFile (config : Config) : String :=
  Path.join config.dataDir "locales.json"

/-- The file that lists the tags to hide. -/
def filterFile (config : Config) : String :=
  Path.join config.dataDir "filter.json"

/-- Look for all files of a site below one directory. -/
def rootedAt
    (config : Config)
    (root : String) :
    Config :=
  { config with
    catalogFile := Path.join root "data/catalog.json"
    dataDir := Path.join root "data"
    localesDir := Path.join root "locales"
    templatesDir := Path.join root "templates"
    staticDir := Path.join root "static" }

end Config

end CatalogSite
