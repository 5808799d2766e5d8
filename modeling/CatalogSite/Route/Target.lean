import CatalogSite.Files.Tree
import CatalogSite.Route.Table
import CatalogSite.Text.Blank
import CatalogSite.Url.Basic

namespace CatalogSite

/-!
# Where a path leads

The path of a URL is looked up without the slashes at its ends. Endpoints come
first, then pages, then the files of the static directory; a file is served only
when every component of its path is an ordinary name.
-/

/-- The path of a URL without the slashes at its ends. -/
def Url.routePath (url : Url) : String :=
  String.ofList (Text.trimChar '/' url.path.chars)

/-- Whether a relative path consists of ordinary names. -/
def Path.isPlain (path : String) : Bool :=
  !path.isEmpty && (Path.components path).all Path.Component.isNormal

/--
The file that a relative path leads to below a directory, if it may be served.
-/
def FileTree.servedFile?
    (tree : FileTree)
    (directory path : String) :
    Option String :=
  let full := Path.join directory path
  if Path.isPlain path && tree.isFile full then some full else none

end CatalogSite
