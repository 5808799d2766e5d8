import CatalogSite.Content.Provider
import CatalogSite.Url.Parse

namespace CatalogSite

/-!
# Pages

The content of a page is rendered into the shell that all pages share. The shell
is seeded from the page and its content, and the definitions of its own namespace
win over the seed. A failure is shown on an error page: the localized not-found
page inside the shell where that can be rendered, and a minimal page otherwise.
-/

/-- The template of the minimal error page when none was loaded. -/
def fallbackErrorTemplate : String :=
  "<h1>\x7berror\x7d</h1>\n<p>\x7bdescription\x7d</p>"

/-- The main template of a namespace. -/
def Site.mainTemplate
    (site : Site)
    (namespaceName : String) :
    Except RequestError String :=
  match site.templates.main? namespaceName with
  | some template => .ok template
  | none => .error (.internal (.missingTemplate namespaceName))

/-- The link to a style sheet. -/
def styleLink (style : String) : String :=
  "<link rel=\"stylesheet\" href=\"/styles/" ++ style ++ "\">"

/-- The link to a script. -/
def scriptLink (script : String) : String :=
  "<script src=\"/scripts/" ++ script ++ "\" type=\"text/javascript\"></script>"

/-- The link that chooses a language. -/
def languageLink (code name : String) : String :=
  "<a class=\"fp-sidebar-button fp-button fp-alternating\" href=\"?lang=" ++
    code ++ "\">" ++ name ++ "</a>"

/-- A text on several lines. -/
def asLines (lines : List String) : String :=
  Text.joinWith "\n" lines

/-- A language code in the form that link previews use. -/
def previewLocale (language : String) : String :=
  String.ofList (Text.replaceChar '-' ['_'] language.toList)

namespace Visit

/-- The definitions of the shell that come from a page and its content. -/
def shellSeed
    (visit : Visit)
    (page : Page)
    (content : Definitions)
    (body : String) :
    Definitions :=
  let siteName := visit.site.config.siteName
  let title := (content.text? "Title").filter (!·.isEmpty)
  .ofTexts [
    ("TITLE", (title.map fun title => title ++ " - " ++ siteName).getD siteName),
    ("STYLES", asLines (page.styles.map styleLink)),
    ("SCRIPTS", asLines (page.scripts.map scriptLink)),
    ("LANGUAGE_SELECT",
      asLines (visit.site.locales.languages.entries.map fun (code, locale) =>
        languageLink code locale.name)),
    ("CURRENT_LANGUAGE", visit.site.locales.name visit.language),
    ("CONTENT", body),
    ("OG_TITLE", title.getD siteName),
    ("OG_DESCRIPTION", (content.text? "Description").getD ""),
    ("OG_URL", Text.escape visit.url.text),
    ("OG_LOCALE", previewLocale visit.language)]

/-- Render a page. -/
def renderPage
    (visit : Visit)
    (page : Page) :
    Except RequestError String := do
  let content ← visit.definitions page.namespaceName
  let template ← visit.site.mainTemplate page.namespaceName
  let seed := visit.shellSeed page content (Template.render template content)
  let shell ← visit.definitions Template.shellNamespace
  let shellTemplate ← visit.site.mainTemplate Template.shellNamespace
  .ok (Template.render shellTemplate (seed.overlay shell))

end Visit

namespace Site

/-- The minimal error page. -/
def minimalErrorPage
    (site : Site)
    (status : Status)
    (description : String) :
    String :=
  Template.render
    ((site.templates.main? Template.errorNamespace).getD fallbackErrorTemplate)
    (.ofTexts [("error", status.text), ("description", description)])

/-- The localized not-found page for the text of a URL. -/
def notFoundPage
    (site : Site)
    (catalog : Catalog)
    (url language : String) :
    Except RequestError String :=
  match Url.parse url with
  | .error cause => .error (.internal (.malformedUrl url cause))
  | .ok parsed =>
      Visit.renderPage { site, catalog, url := parsed, language }
        (.bare Template.notFoundNamespace)

/-- The page that shows a failure. -/
def errorPage
    (site : Site)
    (catalog : Catalog)
    (error : RequestError) :
    String :=
  let minimal := site.minimalErrorPage error.status error.description
  match error with
  | .notFound url language =>
      match site.notFoundPage catalog url language with
      | .ok body => body
      | .error _ => minimal
  | _ => minimal

end Site

end CatalogSite
