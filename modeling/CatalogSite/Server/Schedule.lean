import CatalogSite.Config
import CatalogSite.Text.Blank
import CatalogSite.Text.Lowercase

namespace CatalogSite

/-!
# Refresh schedules

A schedule has six fields: second, minute, hour, day of the month, month and day of
the week. A field lists values, ranges and steps; days also allow the last one, the
weekday nearest to a date, and the n-th weekday of a month. A nickname stands for
five fields at second zero, and a blank schedule for no refresh at all.
-/

/-- One item of a field. -/
inductive ScheduleItem where
  | every
  | value (n : Nat)
  | range (first last : Nat)
  | steps (first last width : Nat)
  | last
  | nearestWeekday (day : Nat)
  | nthWeekday (day count : Nat)
  | lastWeekday (day : Nat)
  deriving Repr, DecidableEq

/-- What the items of a field may be. -/
structure ScheduleField where
  low : Nat
  high : Nat
  allowsLast : Bool := false
  allowsNearest : Bool := false
  allowsNth : Bool := false
  deriving Repr, DecidableEq

/-- The items of each of the six fields. -/
structure Schedule where
  fields : List (List ScheduleItem)
  deriving Repr, DecidableEq

namespace ScheduleField

/-- The six fields in order. -/
def all : List ScheduleField :=
  [{ low := 0, high := 59 }, { low := 0, high := 59 }, { low := 0, high := 23 },
    { low := 1, high := 31, allowsLast := true, allowsNearest := true },
    { low := 1, high := 12 },
    { low := 0, high := 7, allowsLast := true, allowsNth := true }]

/-- Read a number of one byte, possibly behind a plus sign. -/
def byte? (text : List Char) : Option Nat :=
  let digits :=
    match text with
    | '+' :: rest => rest
    | other => other
  if digits.isEmpty || !digits.all Char.isDigit then none
  else
    let value := digitsValue digits
    if value ≤ 255 then some value else none

/-- Read a value within the bounds of a field. -/
def value?
    (field : ScheduleField)
    (text : List Char) :
    Option Nat :=
  (byte? text).filter fun n => field.low ≤ n && n ≤ field.high

/-- Read two values around a dash, the first not above the second. -/
def range?
    (field : ScheduleField)
    (text : List Char) :
    Option (Nat × Nat) :=
  match (text.splitOnP (· == '-')).map Text.trim with
  | [first, last] => do
      let first ← field.value? first
      let last ← field.value? last
      if first ≤ last then some (first, last) else none
  | _ => none

/-- Read a range, a value or a star, and the width of the steps through it. -/
def steps?
    (field : ScheduleField)
    (text : List Char) :
    Option ScheduleItem :=
  match text.splitOnP (· == '/') with
  | [span, width] => do
      let width ← byte? width
      let (first, last) ←
        if span = ['*'] then some (field.low, field.high)
        else if span.contains '-' then field.range? span
        else (field.value? span).map fun first => (first, field.high)
      if width = 0 then none else some (.steps first last width)
  | _ => none

/-- Read a weekday and its place in the month, behind a mark. -/
def nth?
    (field : ScheduleField)
    (text : List Char) :
    Option ScheduleItem :=
  if !field.allowsNth then none
  else
    match text.splitOnP (· == '#') with
    | [day, ['L']] => (field.value? day).map .lastWeekday
    | [day, count] => do
        let day ← field.value? day
        let count ← byte? count
        if 1 ≤ count ∧ count ≤ 5 then some (.nthWeekday day count) else none
    | _ => none

/-- Read one item. -/
def item?
    (field : ScheduleField)
    (text : List Char) :
    Option ScheduleItem :=
  if text.contains '/' then field.steps? text
  else if text.contains '-' then
    (field.range? text).map fun (first, last) => .range first last
  else if text.contains 'W' then
    if field.allowsNearest then
      (field.value? (text.takeWhile (· != 'W'))).map .nearestWeekday
    else
      none
  else if text = ['L'] then if field.allowsLast then some .last else none
  else if text.getLast? = some 'L' ∧ !text.contains '#' then
    field.nth? (text.dropLast ++ ['#', 'L'])
  else if text.contains '#' then field.nth? text
  else (field.value? text).map .value

/--
Read the items of a field: a star alone, or a list whose empty items do not count.
-/
def items?
    (field : ScheduleField)
    (text : List Char) :
    Option (List ScheduleItem) :=
  if text = ['*'] then some [.every]
  else
    (((text.splitOnP (· == ',')).map Text.trim).filter (!·.isEmpty)).mapM
      field.item?

end ScheduleField

namespace Schedule

/-- The names of weekdays and months, with the numbers that they stand for. -/
def numberedNames : List (String × String) :=
  [("-SUN", "-7"), ("SUN", "0"), ("MON", "1"), ("TUE", "2"), ("WED", "3"),
    ("THU", "4"), ("FRI", "5"), ("SAT", "6"), ("JAN", "1"), ("FEB", "2"),
    ("MAR", "3"), ("APR", "4"), ("MAY", "5"), ("JUN", "6"), ("JUL", "7"),
    ("AUG", "8"), ("SEP", "9"), ("OCT", "10"), ("NOV", "11"), ("DEC", "12")]

/--
Replace every occurrence of a part, skipping characters that a found part used.
-/
def replaceFrom (part new : List Char) : Nat → List Char → List Char
  | _, [] => []
  | skipped + 1, _ :: rest => replaceFrom part new skipped rest
  | 0, c :: rest =>
      if Text.startsWith part (c :: rest) then
        new ++ replaceFrom part new (part.length - 1) rest
      else
        c :: replaceFrom part new 0 rest

/-- The five fields that a nickname stands for. -/
def nickname? (text : List Char) : Option (List Char) :=
  match Text.asciiLowercase (String.ofList text) with
  | "@yearly" | "@annually" => some "0 0 1 1 *".toList
  | "@monthly" => some "0 0 1 * *".toList
  | "@weekly" => some "0 0 * * 0".toList
  | "@daily" => some "0 0 * * *".toList
  | "@hourly" => some "0 * * * *".toList
  | _ => none

/-- Write out nicknames, names of days and months, and question marks. -/
def normalized (text : List Char) : List Char :=
  let text :=
    if text.contains '@' then
      '0' :: ' ' :: (nickname? (Text.trim text)).getD (Text.trim text)
    else text
  let upper := text.map Char.toUpper
  let numbered := numberedNames.foldl
    (fun text (name, number) => replaceFrom name.toList number.toList 0 text) upper
  Text.replaceChar '?' ['*'] numbered

/-- Read a schedule. -/
def ofText? (text : String) : Option Schedule :=
  let fields := Text.words (normalized text.toList)
  if fields.length = 6 then do
    let items ← (ScheduleField.all.zip fields).mapM
      fun (entry : ScheduleField × List Char) => entry.1.items? entry.2
    some { fields := items }
  else
    none

/-- The schedule of the refresh, if there is to be one. -/
def ofSetting (setting : String) : Except LoadError (Option Schedule) :=
  if (Text.trim setting.toList).isEmpty then .ok none
  else
    match ofText? setting with
    | some schedule => .ok (some schedule)
    | none => .error (.invalidSchedule setting)

end Schedule

end CatalogSite
