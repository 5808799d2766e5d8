import CatalogSite.Definition
import CatalogSite.Files.Tree
import CatalogSite.Json.Reader
import CatalogSite.Setup

namespace CatalogSite

/-!
# Languages and their translations

The languages of a site are declared in order, each with a display name, and
bring translations for some namespaces. Only the default language has to be
complete: a key that another language does not define is taken from it.
-/

/-- One language: its display name and its translations by namespace. -/
structure Locale where
  name : String
  translations : Dictionary Definitions
  deriving DecidableEq

/-- All languages in the order of declaration, by their codes. -/
structure Locales where
  default : String
  languages : Dictionary Locale
  deriving DecidableEq

namespace Locale

/-- The display name declared for a language. -/
def nameOfJson? (document : Json) : Option String := do
  match ← document.fields? ["name"] with
  | [name] => Json.required Json.text? name
  | _ => none

/-- The file with the translations of a namespace. -/
def translationPath (directory code namespaceName : String) : String :=
  Path.join (Path.join directory code) (namespaceName ++ ".json")

/--
Load the translations of one language.

A namespace without a file is left out, unless the language is the default one.
-/
def loadTranslations
    (tree : FileTree)
    (directory default code : String) :
    Dictionary Definitions → List String → Except LoadError (Dictionary Definitions)
  | loaded, [] => .ok loaded
  | loaded, namespaceName :: rest =>
      let path := translationPath directory code namespaceName
      if tree.isFile path then
        match tree.text? path with
        | none => .error (.unreadableFile path)
        | some text =>
            match (Json.ofText? text).bind Definitions.ofJson? with
            | none => .error (.malformedFile path)
            | some definitions =>
                loadTranslations tree directory default code
                  (loaded.insert namespaceName definitions.escaped) rest
      else if code = default then
        .error (.missingTranslation namespaceName default)
      else
        loadTranslations tree directory default code loaded rest

end Locale

namespace Locales

/-- Languages given directly; their texts are escaped like loaded ones. -/
def ofList
    (default : String)
    (entries : List (String × String × Dictionary Definitions)) :
    Locales where
  default := default
  languages :=
    .ofList (entries.map fun (code, name, translations) =>
      (code, { name, translations := translations.map Dictionary.escaped }))

/-- Load the declared languages, one after the other. -/
def loadLanguages
    (tree : FileTree)
    (directory default : String)
    (namespaces : List String) :
    Dictionary Locale → List (String × String) →
      Except LoadError (Dictionary Locale)
  | loaded, [] => .ok loaded
  | loaded, (code, name) :: rest => do
      let translations ←
        Locale.loadTranslations tree directory default code .empty namespaces
      loadLanguages tree directory default namespaces
        (loaded.insert code { name, translations }) rest

/--
Load the languages declared in a file, with their translations for some namespaces.
-/
def load
    (tree : FileTree)
    (file directory : String)
    (namespaces : List String)
    (default : String) :
    Except LoadError Locales :=
  match tree.text? file with
  | none => .error (.unreadableFile file)
  | some text =>
      match (Json.ofText? text).bind (Json.dictionary? Locale.nameOfJson?) with
      | none => .error (.malformedFile file)
      | some declared =>
          if declared.contains default then do
            let languages ←
              loadLanguages tree directory default namespaces .empty
                declared.entries
            .ok { default, languages }
          else
            .error (.undeclaredDefaultLanguage default file)

/-- Whether a language is declared. -/
def isKnown
    (locales : Locales)
    (code : String) :
    Bool :=
  locales.languages.contains code

/-- The translations of a language for a namespace, if it brings any. -/
def translations?
    (locales : Locales)
    (code namespaceName : String) :
    Option Definitions :=
  (locales.languages.get? code).bind fun locale =>
    locale.translations.get? namespaceName

/-- The display name of a language, or its code when it is not declared. -/
def name
    (locales : Locales)
    (code : String) :
    String :=
  match locales.languages.get? code with
  | some locale => locale.name
  | none => code

/--
The definitions of a namespace in a language, completed by the default language.
-/
def definitions
    (locales : Locales)
    (namespaceName code : String) :
    Definitions :=
  let complete := (locales.translations? locales.default namespaceName).getD .empty
  if code = locales.default then
    complete
  else
    match locales.translations? code namespaceName with
    | some own => complete.overlay own
    | none => complete

end Locales

end CatalogSite
