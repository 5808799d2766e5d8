namespace CatalogSite

/-!
# Failures of loading

A site is loaded before the first request. Each cause that can stop the loading
is a constructor, and `LoadError.message` is the one place that words it.
-/

/-- A cause that stops the loading of a site. -/
inductive LoadError where
  | unreadableFile (path : String)
  | malformedFile (path : String)
  | unreadableTemplate (path : String)
  | unreadableConfig (path : String)
  | malformedConfig (path : String)
  | invalidPort
  | undeclaredDefaultLanguage (language path : String)
  | missingTranslation (namespaceName language : String)
  | endpointOnlyPage (path namespaceName : String)
  | unservedEndpoint (path namespaceName : String)
  | invalidSchedule (schedule : String)
  deriving Repr, DecidableEq

/-- A text in double quotes. -/
def quoted (text : String) : String :=
  "\"" ++ text ++ "\""

/-- The wording of a cause. -/
def LoadError.message : LoadError → String
  | .unreadableFile path => "Failed to read " ++ path
  | .malformedFile path => "Failed to parse " ++ path
  | .unreadableTemplate path => "Failed to read template " ++ path
  | .unreadableConfig path => "Failed to read config file " ++ path
  | .malformedConfig path => "Failed to parse config file " ++ path
  | .invalidPort => "HTTP_PORT is not a valid port"
  | .undeclaredDefaultLanguage language path =>
      "Default language " ++ quoted language ++ " is not declared in " ++ path
  | .missingTranslation namespaceName language =>
      "Missing translation file " ++ namespaceName ++
        ".json for default language " ++
        quoted language
  | .endpointOnlyPage path namespaceName =>
      "Page " ++ path ++ " uses endpoint-only namespace " ++ quoted namespaceName
  | .unservedEndpoint path namespaceName =>
      "Endpoint " ++ path ++ " has no handler for namespace " ++
        quoted namespaceName
  | .invalidSchedule schedule => "Invalid refresh schedule " ++ quoted schedule

end CatalogSite
