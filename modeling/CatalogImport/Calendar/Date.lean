import CatalogImport.Decimal.Digits
import CatalogImport.Text.Blank

/-!
# Calendar dates

Days of the proleptic Gregorian calendar with a year zero, from 1 January of year -262143 to
31 December of year 262142; their written form, and the more liberal forms in which they are read.
-/

namespace CatalogImport.Calendar

open CatalogImport.Decimal

/-- The year has a 29th of February. -/
def isLeapYear (year : Int) : Bool := year % 4 == 0 && (year % 100 != 0 || year % 400 == 0)

/-- How many days a month has; none, if there is no such month. -/
def daysInMonth (year : Int) (month : Nat) : Nat :=
  match month with
  | 1 | 3 | 5 | 7 | 8 | 10 | 12 => 31
  | 4 | 6 | 9 | 11 => 30
  | 2 => if isLeapYear year then 29 else 28
  | _ => 0

/-- The calendar has this day. -/
def IsDate (year : Int) (month day : Nat) : Prop :=
  -262143 ≤ year ∧ year ≤ 262142 ∧ 1 ≤ day ∧ day ≤ daysInMonth year month

instance (year : Int) (month day : Nat) : Decidable (IsDate year month day) :=
  inferInstanceAs (Decidable (_ ∧ _ ∧ _ ∧ _))

/-- A day of the calendar. -/
structure Date where
  year : Int
  month : Nat
  day : Nat
  isDate : IsDate year month day
  deriving DecidableEq

/-- The day of that number, month and year, if the calendar has it. -/
def Date.of? (year : Int) (month day : Nat) : Option Date :=
  if h : IsDate year month day then some ⟨year, month, day, h⟩ else none

/-- A year in four digits or more; one outside 0 to 9999 has a sign. -/
def yearText (year : Int) : String :=
  if year < 0 then "-" ++ padded 4 year.natAbs
  else (if 9999 < year then "+" else "") ++ padded 4 year.natAbs

/-- The date as year, month and day with dashes between them. -/
def Date.text (d : Date) : String :=
  yearText d.year ++ "-" ++ padded 2 d.month ++ "-" ++ padded 2 d.day

/-- A number of one to `most` digits, and what follows it. -/
def someDigits? (most : Nat) (cs : List Char) : Option (Nat × List Char) :=
  let ds := (cs.take most).takeWhile isDigit
  if ds = [] then none else some (valueFrom 0 ds, cs.drop ds.length)

/-- A year: one to four digits, or a sign and any number of digits. -/
def yearOf? (cs : List Char) : Option (Int × List Char) :=
  match cs with
  | '-' :: rest => (someDigits? rest.length rest).map fun (n, r) => (-(n : Int), r)
  | '+' :: rest => (someDigits? rest.length rest).map fun (n, r) => ((n : Int), r)
  | cs => (someDigits? 4 cs).map fun (n, r) => ((n : Int), r)

/-- What follows a certain character. -/
def expect? (c : Char) (cs : List Char) : Option (List Char) :=
  match cs with
  | d :: rest => if d = c then some rest else none
  | [] => none

/-- A year, month and day with dashes between them, and what follows; blanks may stand before each
of the three numbers. -/
def dateOf? (cs : List Char) : Option (Date × List Char) := do
  let (year, cs) ← yearOf? (Text.trimStart cs)
  let cs ← expect? '-' cs
  let (month, cs) ← someDigits? 2 (Text.trimStart cs)
  let cs ← expect? '-' cs
  let (day, cs) ← someDigits? 2 (Text.trimStart cs)
  let date ← Date.of? year month day
  return (date, cs)

/-- The date that a whole text writes. -/
def Date.ofText? (s : String) : Option Date :=
  match dateOf? s.toList with
  | some (date, []) => some date
  | _ => none

/-- Days from 1 January of year 0 to 1 January of a year. -/
def daysBeforeYear (year : Int) : Int :=
  365 * year + (year + 3) / 4 - (year + 99) / 100 + (year + 399) / 400

/-- Days of the months of a year before a month. -/
def daysBeforeMonth (year : Int) (month : Nat) : Nat :=
  (List.range (month - 1)).foldl (fun days m => days + daysInMonth year (m + 1)) 0

/-- Days from 1 January 1970 to a date. -/
def Date.epochDay (d : Date) : Int :=
  daysBeforeYear d.year - daysBeforeYear 1970 + daysBeforeMonth d.year d.month + (d.day - 1)

/-- Splits a count of days within a year into a month and a day of the month. -/
def monthOfDay (year : Int) (days : Nat) : Nat × Nat :=
  let month := ((List.range 12).takeWhile fun m => daysBeforeMonth year (m + 1) ≤ days).length
  (month, days - daysBeforeMonth year month + 1)

/-- The year in which a day counted from 1 January of year 0 lies. -/
def yearOfDay (days : Int) : Int :=
  -- The estimate is never late and at most one year early.
  let y := (400 * days - 399) / 146097
  if daysBeforeYear (y + 1) ≤ days then y + 1 else y

/-- The date that lies a number of days after 1 January 1970, if the calendar reaches it. -/
def Date.ofEpochDay? (epochDay : Int) : Option Date :=
  let days := epochDay + daysBeforeYear 1970
  let year := yearOfDay days
  let (month, day) := monthOfDay year (days - daysBeforeYear year).toNat
  Date.of? year month day

end CatalogImport.Calendar
