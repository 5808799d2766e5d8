import CatalogSite.Dictionary
import CatalogSite.Json.Basic

namespace CatalogSite.Json

/-!
# Typed readings of a document

A reading succeeds exactly when the document fits the wanted type. A record may
be written as an object, whose unknown members are ignored and whose known ones
may not be given twice, or as an array that lists its fields in order.
-/

/-- The content of a string. -/
def text? : Json → Option String
  | .string content => content
  | _ => none

/-- The value of a truth value. -/
def bool? : Json → Option Bool
  | .bool value => some value
  | _ => none

/-- The value of a number. -/
def number? : Json → Option NumberValue
  | .number literal => literal.value?
  | _ => none

/-- The value of an integer. -/
def int? (document : Json) : Option Int :=
  match document.number? with
  | some (.integer value) => some value
  | _ => none

/-- The value of a natural number up to a bound. -/
def nat?
    (bound : Nat)
    (document : Json) :
    Option Nat :=
  match document.int? with
  | some value => if 0 ≤ value ∧ value ≤ bound then some value.toNat else none
  | none => none

/-- The items of an array, each read the same way. -/
def list?
    {α : Type}
    (item? : Json → Option α) :
    Json → Option (List α)
  | .array items => items.mapM item?
  | _ => none

/-- The texts of an array. -/
def texts? : Json → Option (List String) :=
  list? text?

/--
The members of an object, each read the same way; the last one of a name counts.
-/
def dictionary?
    {α : Type}
    (value? : Json → Option α) :
    Json → Option (Dictionary α)
  | .object members => do
      let entries ← members.mapM fun (key, value) => (value? value).map (key, ·)
      some (Dictionary.ofList entries)
  | _ => none

/-- The values given for a name, in order. -/
def given
    (members : List (String × Json))
    (name : String) :
    List Json :=
  members.filterMap fun (key, value) => if key = name then some value else none

/-- The documents given for the named fields of a record. -/
def fields? (names : List String) : Json → Option (List (Option Json))
  | .object members =>
      names.mapM fun name =>
        match given members name with
        | [] => some none
        | [value] => some (some value)
        | _ => none
  | .array items =>
      if names.length < items.length then none
      else
        some
          (items.map some ++ List.replicate (names.length - items.length) none)
  | _ => none

/-- Read a field that has a default. -/
def orDefault
    {α : Type}
    (value? : Json → Option α)
    (default : α) :
    Option Json → Option α
  | none => some default
  | some document => value? document

/-- Read a field that must be given. -/
def required
    {α : Type}
    (value? : Json → Option α) :
    Option Json → Option α
  | none => none
  | some document => value? document

/-- Read a field where null stands for nothing. -/
def optional
    {α : Type}
    (value? : Json → Option α) :
    Json → Option (Option α)
  | .null => some none
  | document => (value? document).map some

end CatalogSite.Json
