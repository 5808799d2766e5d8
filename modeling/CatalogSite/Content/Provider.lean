import CatalogSite.Content.GamePage
import CatalogSite.Content.SearchPage

namespace CatalogSite

/-!
# Definitions of a visit

The definitions of a namespace are its translations, over which its handler lays
its own. An endpoint is answered by its handler alone.
-/

/-- The definitions that a handler adds to the translations. -/
def Handler.provide
    (handler : Handler)
    (visit : Visit)
    (translations : Definitions) :
    Except RequestError Definitions :=
  match handler with
  | .search => SearchPage.provide visit translations
  | .view => GamePage.provide visit
  | .searchInfo | .plain => .ok .empty

/-- The body with which a handler answers for an endpoint. -/
def Handler.respond
    (handler : Handler)
    (visit : Visit) :
    Except RequestError String :=
  if handler.servesEndpoints then .ok visit.site.statistics.toJson.text
  else .error (.internal (.unservedEndpoint handler.name visit.url.text))

/-- The translations of a namespace in the language of a visit. -/
def Visit.translations
    (visit : Visit)
    (namespaceName : String) :
    Definitions :=
  visit.site.locales.definitions namespaceName visit.language

/-- All definitions of a namespace for a visit. -/
def Visit.definitions
    (visit : Visit)
    (namespaceName : String) :
    Except RequestError Definitions := do
  let translations := visit.translations namespaceName
  let provided ← (visit.site.handler namespaceName).provide visit translations
  .ok (translations.overlay provided)

end CatalogSite
