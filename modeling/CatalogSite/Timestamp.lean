import CatalogSite.Json.Number

namespace CatalogSite

/-!
# Points in time

A point in time is a number of seconds since 1970-01-01T00:00:00Z and a number of
nanoseconds; a leap second counts as nanoseconds beyond one second. It is written
in UTC, with the fewest of zero, three, six or nine digits of a fraction.
-/

/-- A point in time. -/
structure Timestamp where
  seconds : Int
  nanoseconds : Nat
  deriving Repr, DecidableEq

namespace Timestamp

/-- The start of 1970 in UTC. -/
def epoch : Timestamp where
  seconds := 0
  nanoseconds := 0

/-- The number of days from 1970-01-01 to a date of the Gregorian calendar. -/
def daysFromDate
    (year : Int)
    (month day : Nat) :
    Int :=
  let shifted := if month ≤ 2 then year - 1 else year
  let era := shifted.fdiv 400
  let yearOfEra := shifted - era * 400
  let monthFromMarch : Int := (month + 9) % 12
  let dayOfYear := (153 * monthFromMarch + 2) / 5 + day - 1
  let dayOfEra := yearOfEra * 365 + yearOfEra / 4 - yearOfEra / 100 + dayOfYear
  era * 146097 + dayOfEra - 719468

/-- The date of the Gregorian calendar a number of days after 1970-01-01. -/
def dateFromDays (days : Int) : Int × Nat × Nat :=
  let shifted := days + 719468
  let era := shifted.fdiv 146097
  let dayOfEra := shifted - era * 146097
  let yearOfEra :=
    (dayOfEra - dayOfEra / 1460 + dayOfEra / 36524 - dayOfEra / 146096) / 365
  let dayOfYear := dayOfEra - (365 * yearOfEra + yearOfEra / 4 - yearOfEra / 100)
  let monthFromMarch := (5 * dayOfYear + 2) / 153
  let day := dayOfYear - (153 * monthFromMarch + 2) / 5 + 1
  let month :=
    if monthFromMarch < 10 then monthFromMarch + 3 else monthFromMarch - 9
  let year := yearOfEra + era * 400
  (if month ≤ 2 then year + 1 else year, month.toNat, day.toNat)

/-- A natural number with leading zeros up to a width. -/
def padded (width n : Nat) : List Char :=
  let digits := Number.natText n
  List.replicate (width - digits.length) '0' ++ digits

/-- The fraction of a second, in the fewest groups of three digits. -/
def fractionText (nanoseconds : Nat) : List Char :=
  if nanoseconds = 0 then []
  else if nanoseconds % 1000000 = 0 then '.' :: padded 3 (nanoseconds / 1000000)
  else if nanoseconds % 1000 = 0 then '.' :: padded 6 (nanoseconds / 1000)
  else '.' :: padded 9 nanoseconds

/-- A year with four digits, or with a sign when it needs more. -/
def yearText (year : Int) : List Char :=
  if 0 ≤ year ∧ year ≤ 9999 then padded 4 year.toNat
  else (if year < 0 then '-' else '+') :: padded 4 year.natAbs

/-- The text of a point in time. -/
def text (time : Timestamp) : String :=
  let days := time.seconds.fdiv 86400
  let secondOfDay := (time.seconds - days * 86400).toNat
  let leap := 1000000000 ≤ time.nanoseconds
  let nanoseconds :=
    if leap then time.nanoseconds - 1000000000 else time.nanoseconds
  let second := secondOfDay % 60 + (if leap then 1 else 0)
  let (year, month, day) := dateFromDays days
  String.ofList <|
    yearText year ++ '-' :: (padded 2 month ++ '-' :: (padded 2 day ++ 'T' ::
      (padded 2 (secondOfDay / 3600) ++ ':' ::
        (padded 2 (secondOfDay / 60 % 60) ++ ':' ::
          (padded 2 second ++ (fractionText nanoseconds ++ ['Z']))))))

/-- Read a fixed number of digits. -/
def readDigits : Nat → List Char → Option (List Char × List Char)
  | 0, text => some ([], text)
  | _ + 1, [] => none
  | count + 1, c :: rest =>
      if c.isDigit then
        (readDigits count rest).map fun (digits, after) => (c :: digits, after)
      else
        none

/-- Read a natural number written with a fixed number of digits. -/
def readNat
    (width : Nat)
    (text : List Char) :
    Option (Nat × List Char) :=
  (readDigits width text).map fun (digits, rest) => (digitsValue digits, rest)

/-- Read one expected character. -/
def readMark (expected : Char → Bool) : List Char → Option (List Char)
  | c :: rest => if expected c then some rest else none
  | [] => none

/--
Read the fraction of a second as nanoseconds; digits beyond the ninth are dropped.
-/
def readFraction : List Char → Option (Nat × List Char)
  | '.' :: rest =>
      let digits := rest.takeWhile Char.isDigit
      if digits.isEmpty then none
      else
        let nine := (digits ++ List.replicate 9 '0').take 9
        some (digitsValue nine, rest.dropWhile Char.isDigit)
  | text => some (0, text)

/-- Read the distance from UTC in seconds. -/
def readOffset : List Char → Option (Int × List Char)
  | 'Z' :: rest | 'z' :: rest => some (0, rest)
  | '+' :: rest => distance 1 rest
  | '-' :: rest => distance (-1) rest
  | _ => none
where
  /-- Read hours and minutes. -/
  distance (sign : Int) (text : List Char) : Option (Int × List Char) := do
    let (hours, rest) ← readNat 2 text
    let rest ← readMark (· == ':') rest
    let (minutes, rest) ← readNat 2 rest
    if hours < 24 ∧ minutes < 60 then
      some (sign * (hours * 3600 + minutes * 60 : Nat), rest)
    else none

/-- Whether a year has a 29th of February. -/
def isLeapYear (year : Nat) : Bool :=
  year % 4 = 0 && (year % 100 ≠ 0 || year % 400 = 0)

/-- The number of days of a month. -/
def daysInMonth (year month : Nat) : Nat :=
  match month with
  | 2 => if isLeapYear year then 29 else 28
  | 4 | 6 | 9 | 11 => 30
  | _ => 31

/-- Read a date and time with its distance from UTC. -/
def ofText? (text : String) : Option Timestamp := do
  let (year, rest) ← readNat 4 text.toList
  let rest ← readMark (· == '-') rest
  let (month, rest) ← readNat 2 rest
  let rest ← readMark (· == '-') rest
  let (day, rest) ← readNat 2 rest
  let rest ← readMark (fun c => c == 'T' || c == 't' || c == ' ') rest
  let (hour, rest) ← readNat 2 rest
  let rest ← readMark (· == ':') rest
  let (minute, rest) ← readNat 2 rest
  let rest ← readMark (· == ':') rest
  let (second, rest) ← readNat 2 rest
  let (nanoseconds, rest) ← readFraction rest
  let (offset, rest) ← readOffset rest
  if rest.isEmpty ∧ 1 ≤ month ∧ month ≤ 12 ∧
      1 ≤ day ∧ day ≤ daysInMonth year month ∧
      hour < 24 ∧ minute < 60 ∧ second ≤ 60 then
    let leap := second = 60
    let whole : Nat := hour * 3600 + minute * 60 + (if leap then 59 else second)
    some {
      seconds := daysFromDate year month day * 86400 + whole - offset
      nanoseconds := nanoseconds + (if leap then 1000000000 else 0)
    }
  else
    none

end Timestamp

end CatalogSite
