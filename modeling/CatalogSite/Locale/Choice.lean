import CatalogSite.Cookie
import CatalogSite.Locale.Registry
import CatalogSite.Url.Basic

namespace CatalogSite

/-!
# The language of a request

A request may name a language in its URL, and a browser may remember one in a
cookie. The first of them that is declared decides, the URL before the cookie;
otherwise the default language is used. Only a choice made in the URL is to be
remembered.
-/

/-- The name of the query parameter and of the cookie that hold a language. -/
def languageKey : String := "lang"

/-- The language chosen for a request. -/
structure LanguageChoice where
  language : String
  persist : Bool
  deriving Repr, DecidableEq

namespace Locales

/-- A language code, if it is declared. -/
def known?
    (locales : Locales)
    (code : Option String) :
    Option String :=
  code.filter locales.isKnown

/-- Choose the language of a request. -/
def choose
    (locales : Locales)
    (url : Url)
    (cookies : Option String) :
    LanguageChoice :=
  match locales.known? (url.queryValue? languageKey) with
  | some language => { language, persist := true }
  | none =>
      match locales.known? (cookies.bind (Cookie.value? · languageKey)) with
      | some language => { language, persist := false }
      | none => { language := locales.default, persist := false }

end Locales

end CatalogSite
