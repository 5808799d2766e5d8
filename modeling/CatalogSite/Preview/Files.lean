import CatalogSite.Preview.Command

namespace CatalogSite.Preview

/-!
# The files of a preview

What a preview reads depends on what it has read: the configuration names the
data files, the pages and languages listed there name templates and
translations, and the target names a static file. Listing the files again after
reading them finds the next ones, and after three rounds there are no more.
-/

/-- The rounds of reading after which no further file is named. -/
def readingRounds : Nat := 3

/-- The files that a configuration names. -/
def dataFiles (config : Config) : List String :=
  [config.catalogFile, config.pagesFile, config.endpointsFile, config.localesFile,
    config.filterFile]

/-- The pages declared in the files read so far. -/
def declaredPages
    (tree : FileTree)
    (config : Config) :
    List Page :=
  match
    Site.readDocument tree config.pagesFile
      (Json.dictionary? Page.routeOfJson?) with
  | .ok pages => Site.pagesOf pages
  | .error _ => []

/-- The languages declared in the files read so far. -/
def declaredLanguages
    (tree : FileTree)
    (config : Config) :
    List String :=
  match
    Site.readDocument tree config.localesFile
      (Json.dictionary? Locale.nameOfJson?) with
  | .ok languages => languages.keys
  | .error _ => []

/-- The templates of some pages and of the built-in namespaces. -/
def templateFiles
    (config : Config)
    (pages : List Page) :
    List String :=
  (Site.templateRequests pages).flatMap fun (name, fragments) =>
    Template.Store.mainPath config.templatesDir name ::
      fragments.map (Template.Store.fragmentPath config.templatesDir name)

/-- The translations of some pages and of the built-in namespaces. -/
def translationFiles
    (config : Config)
    (pages : List Page)
    (languages : List String) :
    List String :=
  languages.flatMap fun code =>
    (Site.translatedNamespaces pages).map
      (Locale.translationPath config.localesDir code)

/-- The static file that a target may name. -/
def staticFiles
    (config : Config)
    (arguments : List String) :
    List String :=
  match address config (arguments.headD "/") none with
  | .ok url => [Path.join config.staticDir url.routePath]
  | .error _ => []

/-- The files to read, as far as the files read so far name them. -/
def filesToRead
    (tree : FileTree)
    (environment : Environment)
    (arguments : List String) :
    List String :=
  [environmentPath, configPath] ++
    match Config.load tree configPath (environmentOf tree environment) with
    | .error _ => []
    | .ok config =>
        let pages := declaredPages tree config
        dataFiles config ++ templateFiles config pages ++
          translationFiles config pages (declaredLanguages tree config) ++
          staticFiles config arguments

end CatalogSite.Preview
