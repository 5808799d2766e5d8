import CatalogSite.Content.Provider
import CatalogSite.Proofs.Dictionary.Lookup
import CatalogSite.Proofs.Site.Assembled

namespace CatalogSite

/-!
# Complete languages

The definitions of a namespace are laid over each other: those of the default language,
those of the wanted language, and for a visit those of the handler. What loading has
read is described by the files alone. A language brings the definitions of its file if
it is declared and has one; only the default language has to bring a file for every
namespace, and loading fails where it does not.
-/

/-- The definitions that a file lists, as they are written there. -/
def Definitions.written?
    (tree : FileTree)
    (path : String) :
    Option Definitions :=
  (tree.text? path).bind fun text =>
    (Json.ofText? text).bind Definitions.ofJson?

theorem FileTree.text?_eq_none_of_isFile
    {tree : FileTree}
    {path : String}
    (noFile : tree.isFile path = false) :
    tree.text? path = none := by
  unfold isFile at noFile
  unfold text? readText
  split at noFile
  · cases noFile
  · rename_i noContent
    cases found : tree.entry path with
    | file content =>
        exact (noContent content found).elim
    | directory =>
        rfl
    | missing =>
        rfl
    | belowFile =>
        rfl

namespace Locale

variable {tree : FileTree} {directory default code : String}

/--
What loading one namespace can do.

Its file is read and its definitions are written, or there is no file and the language
is not the default one.
-/
theorem loadTranslations_cons
    {loaded final : Dictionary Definitions}
    {name : String}
    {rest : List String}
    (loads :
      loadTranslations tree directory default code loaded (name :: rest) =
        .ok final) :
    (∃ definitions,
      tree.isFile (translationPath directory code name) = true ∧
        Definitions.written? tree (translationPath directory code name) =
          some definitions ∧
        loadTranslations tree directory default code
            (loaded.insert name definitions.escaped) rest =
          .ok final) ∨
    (tree.isFile (translationPath directory code name) = false ∧
      code ≠ default ∧
      loadTranslations tree directory default code loaded rest =
        .ok final) := by
  unfold loadTranslations at loads
  dsimp only at loads
  split at loads
  · rename_i isFile
    split at loads
    · cases loads
    · rename_i text isText
      split at loads
      · cases loads
      · rename_i definitions isListed
        have isWritten :
            Definitions.written? tree
                (translationPath directory code name) =
              some definitions := by
          rw [Definitions.written?, isText]
          exact isListed
        exact .inl ⟨definitions, isFile, isWritten, loads⟩
  · rename_i noFile
    split at loads
    · cases loads
    · rename_i otherLanguage
      exact .inr ⟨Bool.eq_false_iff.mpr noFile, otherLanguage, loads⟩

/-- The files that loading needs are there, and those that are there can be read. -/
theorem isFile_of_loadTranslations
    {loaded final : Dictionary Definitions}
    {names : List String}
    (loads :
      loadTranslations tree directory default code loaded names =
        .ok final) :
    ∀ name ∈ names,
      (code = default →
        tree.isFile (translationPath directory code name) = true) ∧
      tree.isFile (translationPath directory code name) =
        (Definitions.written? tree
          (translationPath directory code name)).isSome := by
  induction names generalizing loaded with
  | nil =>
      intro name member
      cases member
  | cons first rest inductionHypothesis =>
      intro name member
      rcases loadTranslations_cons loads with
        ⟨definitions, isFile, isWritten, loadsRest⟩ |
          ⟨noFile, otherLanguage, loadsRest⟩
      · rcases List.mem_cons.mp member with rfl | inRest
        · exact ⟨fun _ => isFile, by rw [isFile, isWritten]; rfl⟩
        · exact inductionHypothesis loadsRest name inRest
      · rcases List.mem_cons.mp member with rfl | inRest
        · refine ⟨fun isDefault => (otherLanguage isDefault).elim, ?_⟩
          rw [noFile, Definitions.written?,
            FileTree.text?_eq_none_of_isFile noFile]
          rfl
        · exact inductionHypothesis loadsRest name inRest

/-- Loading writes the escaped definitions of every file that is there. -/
theorem get?_of_loadTranslations
    {loaded final : Dictionary Definitions}
    {names : List String}
    (loads :
      loadTranslations tree directory default code loaded names =
        .ok final)
    (wanted : String) :
    final.get? wanted =
      if wanted ∈ names then
        ((Definitions.written? tree
            (translationPath directory code wanted)).map
          Dictionary.escaped).or (loaded.get? wanted)
      else loaded.get? wanted := by
  induction names generalizing loaded with
  | nil =>
      cases loads
      rfl
  | cons first rest inductionHypothesis =>
      rcases loadTranslations_cons loads with
        ⟨definitions, -, isWritten, loadsRest⟩ |
          ⟨noFile, -, loadsRest⟩
      · rw [inductionHypothesis loadsRest, Dictionary.get?_insert]
        by_cases isFirst : first = wanted
        · subst isFirst
          simp [isWritten]
        · simp [isFirst, Ne.symm isFirst]
      · rw [inductionHypothesis loadsRest]
        by_cases isFirst : first = wanted
        · subst isFirst
          have nothingWritten :
              Definitions.written? tree
                  (translationPath directory code first) =
                none := by
            rw [Definitions.written?,
              FileTree.text?_eq_none_of_isFile noFile]
            rfl
          simp [nothingWritten]
        · simp [Ne.symm isFirst]

end Locale

namespace Locales

variable {tree : FileTree} {file directory default : String}
  {names : List String} {locales : Locales}

/-- The languages that a file declares, with their display names. -/
def declared?
    (tree : FileTree)
    (file : String) :
    Option (Dictionary String) :=
  (tree.text? file).bind fun text =>
    (Json.ofText? text).bind (Json.dictionary? Locale.nameOfJson?)

/-- Whether a file declares a language. -/
def declares
    (tree : FileTree)
    (file code : String) : Bool :=
  (declared? tree file).any (·.contains code)

/-- The definitions that a declared language brings for a namespace, if it has the file. -/
def written?
    (tree : FileTree)
    (file directory code name : String) :
    Option Definitions :=
  if declares tree file code then
    Definitions.written? tree (Locale.translationPath directory code name)
  else none

/-- Every declared language is loaded, and no other one. -/
theorem get?_of_loadLanguages
    {loaded final : Dictionary Locale}
    {declared : List (String × String)}
    (distinct : (declared.map Prod.fst).Nodup)
    (loads :
      loadLanguages tree directory default names loaded declared =
        .ok final)
    (code : String) :
    (∀ display,
      Dictionary.find? declared code = some display →
      ∃ translations,
        Locale.loadTranslations tree directory default code .empty names =
            .ok translations ∧
          final.get? code = some { name := display, translations }) ∧
    (Dictionary.find? declared code = none →
      final.get? code = loaded.get? code) := by
  induction declared generalizing loaded with
  | nil =>
      cases loads
      refine ⟨?_, fun _ => rfl⟩
      intro display found
      cases found
  | cons entry rest inductionHypothesis =>
      obtain ⟨first, firstDisplay⟩ := entry
      obtain ⟨notAgain, restDistinct⟩ := List.nodup_cons.mp distinct
      obtain ⟨translations, loadsFirst, loadsRest⟩ :=
        exists_of_bind_eq_ok loads
      obtain ⟨ofDeclared, ofOthers⟩ :=
        inductionHypothesis restDistinct loadsRest
      rw [Dictionary.get?_insert] at ofOthers
      by_cases isFirst : first = code
      · subst isFirst
        have kept :
            final.get? first =
              some { name := firstDisplay, translations } := by
          simpa using ofOthers (Dictionary.find?_eq_none_of_notMem notAgain)
        simp only [Dictionary.find?, if_true]
        constructor
        · intro display isDisplay
          cases isDisplay
          exact ⟨translations, loadsFirst, kept⟩
        · intro notFound
          cases notFound
      · rw [if_neg isFirst] at ofOthers
        simp only [Dictionary.find?, if_neg isFirst]
        exact ⟨ofDeclared, ofOthers⟩

/-- What a successful loading has read. -/
theorem exists_declared_of_load
    (loads : load tree file directory names default = .ok locales) :
    ∃ declared,
      declared? tree file = some declared ∧
        declared.contains default = true ∧
        locales.default = default ∧
        loadLanguages tree directory default names .empty
            declared.entries =
          .ok locales.languages := by
  unfold load at loads
  split at loads
  · cases loads
  · rename_i text isText
    split at loads
    · cases loads
    · rename_i declared isDeclared
      split at loads
      · rename_i hasDefault
        obtain ⟨languages, loadsLanguages, isLocales⟩ :=
          exists_of_bind_eq_ok loads
        have isRead : declared? tree file = some declared := by
          rw [declared?, isText]
          exact isDeclared
        cases isLocales
        exact ⟨declared, isRead, hasDefault, rfl, loadsLanguages⟩
      · cases loads

/-- A declared language has loaded its translations. -/
theorem exists_translations_of_declares
    (loads : load tree file directory names default = .ok locales)
    {code : String}
    (isDeclared : declares tree file code = true) :
    ∃ display translations,
      Locale.loadTranslations tree directory default code .empty names =
          .ok translations ∧
        locales.languages.get? code =
          some { name := display, translations } := by
  obtain ⟨declared, isRead, -, -, loadsLanguages⟩ :=
    exists_declared_of_load loads
  have hasCode : declared.contains code = true := by
    simpa [declares, isRead] using isDeclared
  obtain ⟨display, isDisplay⟩ := Option.isSome_iff_exists.mp hasCode
  obtain ⟨translations, loadsOwn, isLoaded⟩ :=
    (get?_of_loadLanguages declared.nodup loadsLanguages code).1 display
      isDisplay
  exact ⟨display, translations, loadsOwn, isLoaded⟩

/-- The translations of a language are the definitions that it brings, escaped. -/
theorem translations?_of_load
    (loads : load tree file directory names default = .ok locales)
    {name : String}
    (asked : name ∈ names)
    (code : String) :
    locales.translations? code name =
      (written? tree file directory code name).map Dictionary.escaped := by
  unfold translations? written?
  by_cases isDeclared : declares tree file code = true
  · obtain ⟨display, translations, loadsOwn, isLoaded⟩ :=
      exists_translations_of_declares loads isDeclared
    rw [isLoaded, if_pos isDeclared, Option.bind_some,
      Locale.get?_of_loadTranslations loadsOwn, if_pos asked]
    simp
  · obtain ⟨declared, isRead, -, -, loadsLanguages⟩ :=
      exists_declared_of_load loads
    have notFound : Dictionary.find? declared.entries code = none := by
      simpa [declares, isRead, Dictionary.contains, Dictionary.get?]
        using isDeclared
    have notLoaded :
        locales.languages.get? code = none := by
      simpa using
        (get?_of_loadLanguages declared.nodup loadsLanguages code).2
          notFound
    rw [notLoaded, if_neg isDeclared]
    rfl

/-- The default language brings definitions for every namespace that was asked for. -/
theorem exists_written?_default
    (loads : load tree file directory names default = .ok locales)
    {name : String}
    (asked : name ∈ names) :
    ∃ base, written? tree file directory default name = some base := by
  obtain ⟨declared, isRead, hasDefault, -, -⟩ :=
    exists_declared_of_load loads
  have isDeclared : declares tree file default = true := by
    simp [declares, isRead, hasDefault]
  obtain ⟨display, translations, loadsOwn, -⟩ :=
    exists_translations_of_declares loads isDeclared
  obtain ⟨hasFile, isRead⟩ :=
    Locale.isFile_of_loadTranslations loadsOwn name asked
  rw [written?, if_pos isDeclared]
  exact Option.isSome_iff_exists.mp (isRead ▸ hasFile rfl)

/-- Loading fails without the default language or one of its files. -/
theorem exists_error_of_incomplete
    (incomplete :
      declares tree file default = false ∨
        ∃ name ∈ names,
          tree.isFile (Locale.translationPath directory default name) =
            false) :
    ∃ cause, load tree file directory names default = .error cause := by
  cases outcome : load tree file directory names default with
  | error cause =>
      exact ⟨cause, rfl⟩
  | ok locales =>
      obtain ⟨declared, isRead, hasDefault, -, -⟩ :=
        exists_declared_of_load outcome
      have isDeclared : declares tree file default = true := by
        simp [declares, isRead, hasDefault]
      rcases incomplete with undeclared | ⟨name, asked, noFile⟩
      · rw [isDeclared] at undeclared
        cases undeclared
      · obtain ⟨display, translations, loadsOwn, -⟩ :=
          exists_translations_of_declares outcome isDeclared
        have hasFile :=
          (Locale.isFile_of_loadTranslations loadsOwn name asked).1 rfl
        rw [hasFile] at noFile
        cases noFile

/-- Some definitions complete those that a language brings by those of a base, escaped. -/
structure Completes
    (base : Definitions)
    (own : Option Definitions)
    (definitions : Definitions) : Prop where
  keys :
    ∀ key,
      definitions.contains key =
        (base.contains key || own.any (·.contains key))
  ownValue :
    ∀ brought key value,
      own = some brought →
      brought.get? key = some value →
      definitions.get? key = some value.escaped
  baseValue :
    ∀ key value,
      own.any (·.contains key) = false →
      base.get? key = some value →
      definitions.get? key = some value.escaped

theorem completes_of_get?_eq
    {base definitions : Definitions}
    {own : Option Definitions}
    (layers :
      ∀ key,
        definitions.get? key =
          ((own.bind (·.get? key)).or (base.get? key)).map
            Definition.escaped) :
    Completes base own definitions where
  keys key := by
    cases own with
    | none =>
        simp [Dictionary.contains, layers key]
    | some brought =>
        simp [Dictionary.contains, layers key, Bool.or_comm]
  ownValue brought key value isOwn isValue := by
    rw [layers key, isOwn, Option.bind_some, isValue]
    rfl
  baseValue key value notOwn isValue := by
    cases own with
    | none =>
        rw [layers key, isValue]
        rfl
    | some brought =>
        have absent : brought.get? key = none := by
          simpa [Dictionary.contains] using notOwn
        rw [layers key, Option.bind_some, absent, isValue]
        rfl

/-- The definitions of a loaded language complete what its files bring. -/
theorem completes_of_load
    (loads : load tree file directory names default = .ok locales)
    {name : String}
    (asked : name ∈ names)
    {base : Definitions}
    (isBase : written? tree file directory default name = some base)
    (code : String) :
    Completes base (written? tree file directory code name)
      (locales.definitions name code) := by
  obtain ⟨-, -, -, isDefault, -⟩ := exists_declared_of_load loads
  have ofDefault :
      locales.translations? default name = some base.escaped := by
    rw [translations?_of_load loads asked default, isBase]
    rfl
  have ofCode :=
    translations?_of_load loads asked code
  apply completes_of_get?_eq
  intro key
  unfold definitions
  rw [isDefault, ofDefault, Option.getD_some, ofCode]
  by_cases same : code = default
  · rw [if_pos same, same, isBase, Option.bind_some, Option.or_self,
      Dictionary.escaped, Dictionary.get?_map]
  · rw [if_neg same]
    cases written? tree file directory code name with
    | none =>
        exact Dictionary.get?_map base Definition.escaped key
    | some brought =>
        simp only [Option.map_some, Option.bind_some,
          Dictionary.get?_overlay, Dictionary.escaped,
          Dictionary.get?_map]
        cases brought.get? key <;> rfl

end Locales

/-- The handler of a namespace decides about the keys that it provides, and no others. -/
theorem Visit.get?_of_definitions
    {visit : Visit}
    {name : String}
    {definitions : Definitions}
    (succeeds : visit.definitions name = .ok definitions) :
    ∃ provided,
      (visit.site.handler name).provide visit
            (visit.site.locales.definitions name visit.language) =
          .ok provided ∧
        ∀ key,
          definitions.get? key =
            (provided.get? key).or
              ((visit.site.locales.definitions name
                visit.language).get? key) := by
  obtain ⟨provided, provides, isOverlay⟩ :=
    exists_of_bind_eq_ok succeeds
  cases isOverlay
  exact ⟨provided, provides, Dictionary.get?_overlay _ provided⟩

namespace Locales

/--
Every language is complete, and so are the definitions of a visit.

Whatever the files are, loaded definitions have the keys of the default language and
those that the wanted language brings itself, each with the escaped value of the wanted
language if it has one. Loading fails where the default language is incomplete. Over
these, a visit has what the handler of the namespace provides.
-/
theorem definitions_complete :
    (∀ tree file directory names default locales,
      load tree file directory names default = .ok locales →
      ∀ name ∈ names,
        ∃ base,
          written? tree file directory default name = some base ∧
            ∀ code,
              Completes base (written? tree file directory code name)
                  (locales.definitions name code) ∧
                (declares tree file code = true →
                  tree.isFile
                      (Locale.translationPath directory code name) =
                    (written? tree file directory code name).isSome)) ∧
    (∀ tree file directory names default,
      (declares tree file default = false ∨
        ∃ name ∈ names,
          tree.isFile (Locale.translationPath directory default name) =
            false) →
      ∃ cause, load tree file directory names default = .error cause) ∧
    ∀ (visit : Visit) (name : String) (definitions : Definitions),
      visit.definitions name = .ok definitions →
      ∃ provided,
        (visit.site.handler name).provide visit
              (visit.site.locales.definitions name visit.language) =
            .ok provided ∧
          ∀ key,
            definitions.get? key =
              (provided.get? key).or
                ((visit.site.locales.definitions name
                  visit.language).get? key) := by
  refine ⟨?_, ?_, ?_⟩
  · intro tree file directory names default locales loads name asked
    obtain ⟨base, isBase⟩ := exists_written?_default loads asked
    refine ⟨base, isBase, fun code => ⟨?_, fun isDeclared => ?_⟩⟩
    · exact completes_of_load loads asked isBase code
    · obtain ⟨display, translations, loadsOwn, -⟩ :=
        exists_translations_of_declares loads isDeclared
      rw [written?, if_pos isDeclared]
      exact (Locale.isFile_of_loadTranslations loadsOwn name asked).2
  · intro tree file directory names default incomplete
    exact exists_error_of_incomplete incomplete
  · intro visit name definitions succeeds
    exact visit.get?_of_definitions succeeds

/-- A disk with two languages, of which the second one brings an empty text. -/
def bilingualDisk : FileTree where
  files :=
    let document (content : Json) : FileContent := .text content.text
    let language (name : String) : Json :=
      .object [("name", .ofString name)]
    [(["locales.json"], document (.object [
        ("en", language "English"),
        ("fr", language "French")])),
      (["locales", "en", "view.json"], document (.object [
        ("Title", .ofString "<Game>"),
        ("Back", .ofString "Back")])),
      (["locales", "fr", "view.json"], document (.object [
        ("Back", .ofString "")]))]

/-- The languages that are loaded from the bilingual disk. -/
def bilingual : Locales where
  default := "en"
  languages := .ofList [
    ("en", {
      name := "English"
      translations := .ofList [
        ("view",
          .ofTexts [("Title", "&lt;Game&gt;"), ("Back", "Back")])] }),
    ("fr", {
      name := "French"
      translations := .ofList [("view", .ofTexts [("Back", "")])] })]

/-- A visit in the second language to the page of the only game. -/
def bilingualVisit : Visit where
  site := {
    config := .defaults
    templates := .empty
    locales := bilingual
    pages := ⟨[("/view", ⟨.bare "view", false⟩)]⟩
    endpoints := .empty
    hiddenTags := []
    statistics := .empty .epoch
    handlers := .ofList [("view", .view)] }
  catalog :=
    (GameStore.ofGames [{ id := "1", title := "Alpha" }]).catalog
  url := {
    scheme := "http".toList
    authority := some (.ofHost (.domain "x".toList))
    path := .segments ["view".toList]
    query := some "id=1".toList
    fragment := none }
  language := "fr"

/-- An empty text of a language counts, a missing one and an unknown language do not. -/
theorem definitions_complete_bilingual :
    load bilingualDisk "locales.json" "locales" ["view"] "en" =
        .ok bilingual ∧
      (bilingual.definitions "view" "fr").get? "Back" =
        some (.text "") ∧
      (bilingual.definitions "view" "fr").get? "Title" =
        some (.text "&lt;Game&gt;") ∧
      (bilingual.definitions "view" "de").get? "Back" =
        some (.text "Back") ∧
      (∃ cause,
        load bilingualDisk "locales.json" "locales" ["view"] "de" =
          .error cause) ∧
      ∃ definitions provided : Definitions,
        bilingualVisit.definitions "view" = .ok definitions ∧
          ∀ key,
            definitions.get? key =
              (provided.get? key).or
                ((bilingual.definitions "view" "fr").get? key) := by
  obtain ⟨complete, incomplete, visited⟩ := definitions_complete
  have loads :
      load bilingualDisk "locales.json" "locales" ["view"] "en" =
        .ok bilingual := by
    apply eq_ok_of_toOption_eq_some
    decide +kernel
  have english :
      written? bilingualDisk "locales.json" "locales" "en" "view" =
        some (.ofTexts [("Title", "<Game>"), ("Back", "Back")]) := by
    decide +kernel
  have french :
      written? bilingualDisk "locales.json" "locales" "fr" "view" =
        some (.ofTexts [("Back", "")]) := by
    decide +kernel
  have german :
      written? bilingualDisk "locales.json" "locales" "de" "view" =
        none := by
    decide +kernel
  obtain ⟨base, isBase, completes⟩ :=
    complete bilingualDisk "locales.json" "locales" ["view"] "en"
      bilingual loads "view" List.mem_cons_self
  obtain rfl := Option.some.inj (english.symm.trans isBase)
  obtain ⟨ofFrench, -⟩ := completes "fr"
  obtain ⟨ofGerman, -⟩ := completes "de"
  rw [french] at ofFrench
  rw [german] at ofGerman
  have undeclared :
      ∃ cause,
        load bilingualDisk "locales.json" "locales" ["view"] "de" =
          .error cause := by
    apply incomplete
    exact .inl (by decide +kernel)
  have succeeds :
      bilingualVisit.definitions "view" =
        .ok ((bilingual.definitions "view" "fr").overlay
          (GamePage.describe Config.defaults.imageUrl
            { id := "1", title := "Alpha" })) := by
    apply eq_ok_of_toOption_eq_some
    decide +kernel
  obtain ⟨provided, -, layers⟩ :=
    visited bilingualVisit "view" _ succeeds
  refine ⟨loads, ?_, ?_, ?_, undeclared, _, provided, succeeds, layers⟩
  · exact ofFrench.ownValue _ "Back" (.text "") rfl (by decide)
  · exact ofFrench.baseValue "Title" (.text "<Game>") (by decide)
      (by decide)
  · exact ofGerman.baseValue "Back" (.text "Back") rfl (by decide)

end Locales

end CatalogSite
