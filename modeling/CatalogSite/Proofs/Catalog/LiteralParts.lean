import CatalogSite.Catalog.Filter
import CatalogSite.Proofs.Text.LowercaseParts

namespace CatalogSite.Filter

/-!
# Values that stand in a field

A filter looks for the lowercase form of its value in the lowercase form of a text, so
that case does not count. That the value itself stands in the text is not enough: a
capital sigma at an end of the value may have another form there. The values that are
found wherever they stand are those that settle their sigmas.
-/

variable {game : Game} {field : SearchField} {value text : String}

/-- Some text of a field holds a value, character for character. -/
def HoldsLiterally
    (game : Game)
    (field : SearchField)
    (value : String) :
    Prop :=
  ∃ text ∈ field.texts game, value.toList <:+: text.toList

theorem occursIn_iff_isInfix
    {part text : List Char} :
    Text.occursIn part text = true ↔ part <:+: text := by
  rw [Text.occursIn_iff]
  constructor
  · rintro ⟨before, after, split⟩
    exact ⟨before, after, split.symm⟩
  · rintro ⟨before, after, joined⟩
    exact ⟨before, after, joined.symm⟩

theorem holdsLiterally_iff :
    HoldsLiterally game field value ↔
      ((field.texts game).any fun text =>
        Text.occursIn value.toList text.toList) = true := by
  simp only [HoldsLiterally, List.any_eq_true, occursIn_iff_isInfix]

instance : Decidable (HoldsLiterally game field value) :=
  decidable_of_iff _ holdsLiterally_iff.symm

/-- The filters for a value in a field find it there. -/
structure Finds
    (game : Game)
    (field : SearchField)
    (value : String) :
    Prop where
  contains : (Filter.contains field value).admits game = true
  notContains : (Filter.notContains field value).admits game = false

theorem containsLowercase_iff :
    containsLowercase (Text.lowercase value) text = true ↔
      Text.lowercaseChars value.toList <:+:
        Text.lowercaseChars text.toList := by
  rw [containsLowercase, occursIn_iff_isInfix, Text.lowercase,
    Text.lowercase, String.toList_ofList, String.toList_ofList]

theorem finds_iff :
    Finds game field value ↔
      ∃ text ∈ field.texts game,
        Text.lowercaseChars value.toList <:+:
          Text.lowercaseChars text.toList := by
  have found :
      containsIn game field value = true ↔
        ∃ text ∈ field.texts game,
          Text.lowercaseChars value.toList <:+:
            Text.lowercaseChars text.toList := by
    simp only [containsIn, List.any_eq_true, containsLowercase_iff]
  rw [← found]
  constructor
  · exact Finds.contains
  · intro contains
    exact ⟨contains, by rw [admits, contains, Bool.not_true]⟩

theorem finds_of_holdsLiterally
    (settles : Text.SettlesSigmas value.toList)
    (holds : HoldsLiterally game field value) :
    Finds game field value := by
  obtain ⟨text, member, before, after, joined⟩ := holds
  refine finds_iff.mpr ⟨text, member, ?_⟩
  rw [← joined]
  exact settles.isInfix before after

/-- A value without a capital sigma is found wherever it stands. -/
theorem finds_of_sigmaFree
    (sigmaFree : Text.capitalSigma ∉ value.toList)
    (holds : HoldsLiterally game field value) :
    Finds game field value :=
  finds_of_holdsLiterally (Text.settlesSigmas_of_notMem sigmaFree) holds

/--
Exactly the values that settle their sigmas are found in every field that holds them.

For such a value both filters see every literal occurrence, in all games and fields. For
any other value there are a game and a field that hold it, and both filters miss it.
-/
theorem finds_literal_iff
    (value : String) :
    (∀ (game : Game) (field : SearchField),
      field.isDate = false →
      HoldsLiterally game field value →
      Finds game field value) ↔
      Text.SettlesSigmas value.toList := by
  constructor
  · intro findsAll
    rw [Text.settlesSigmas_iff]
    intro before after
    let title : String :=
      String.ofList (before ++ value.toList ++ after)
    have titleChars : title.toList = before ++ value.toList ++ after :=
      String.toList_ofList
    let game : Game := { id := "", title }
    have holds : HoldsLiterally game .title value :=
      ⟨title, List.mem_singleton_self title, before, after,
        titleChars.symm⟩
    obtain ⟨found, member, occurs⟩ :=
      finds_iff.mp (findsAll game .title rfl holds)
    rwa [List.mem_singleton.mp member, titleChars] at occurs
  · intro settles game field _ holds
    exact finds_of_holdsLiterally settles holds

/-- The first four letters of a title end in a sigma that ends no word of the title. -/
theorem exists_literal_not_found :
    ∃ (game : Game) (field : SearchField) (value : String),
      field.isDate = false ∧
        HoldsLiterally game field value ∧
        (Filter.contains field value).admits game = false ∧
        (Filter.notContains field value).admits game = true := by
  refine ⟨{ id := "1", title := "ΟΔΥΣΣΕΙΑ" }, .title, "ΟΔΥΣ", ?_⟩
  decide

end CatalogSite.Filter
