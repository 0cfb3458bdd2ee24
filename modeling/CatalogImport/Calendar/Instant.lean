import CatalogImport.Calendar.Date

/-!
# Instants

Points of universal time to the nanosecond, leap seconds included: their order, their distance, and
their written form, which ends in a `Z` and has as many decimal places as it needs.
-/

namespace CatalogImport.Calendar

open CatalogImport.Decimal

/-- A day, a second of it, and a fraction in nanoseconds.  During a leap second, the fraction of the
second before it runs on to two thousand million. -/
structure Instant where
  date : Date
  second : Nat
  nanos : Nat
  deriving DecidableEq

/-- Nanoseconds in a second. -/
def nanosPerSecond : Nat := 1000000000

/-- The start of 1970. -/
def Instant.epoch : Instant := ⟨⟨1970, 1, 1, by decide⟩, 0, 0⟩

/-- The order of instants: by day, second and fraction. -/
def Instant.le (a b : Instant) : Bool :=
  let x := a.date.epochDay
  let y := b.date.epochDay
  x < y || (x == y && (a.second < b.second || (a.second == b.second && a.nanos ≤ b.nanos)))

/-- The later of two instants. -/
def Instant.latest (a b : Instant) : Instant := if a.le b then b else a

/-- Nanoseconds from one instant to another.  A leap second lies between them if one of the two is
in it and the other is at a later time of its day, or, the other way round, an earlier one. -/
def Instant.since (later earlier : Instant) : Int :=
  let days := later.date.epochDay - earlier.date.epochDay
  let leap : Int :=
    if earlier.second < later.second ∧ nanosPerSecond ≤ earlier.nanos then 1
    else if later.second < earlier.second ∧ nanosPerSecond ≤ later.nanos then -1
    else 0
  (days * 86400 + ((later.second : Int) - earlier.second) + leap) * nanosPerSecond
    + ((later.nanos : Int) - earlier.nanos)

/-- The instant a number of milliseconds later, or earlier when it is negative. -/
def Instant.addMillis? (t : Instant) (ms : Int) : Option Instant :=
  let total : Int := (t.date.epochDay * 86400 + t.second) * nanosPerSecond + t.nanos + ms * 1000000
  let second := total / nanosPerSecond
  (Date.ofEpochDay? (second / 86400)).map fun date =>
    ⟨date, (second % 86400).toNat, (total % nanosPerSecond).toNat⟩

/-- A fraction of a second in the fewest of no, three, six or nine places that are exact. -/
def fractionText (nanos : Nat) : String :=
  if nanos = 0 then ""
  else if nanos % 1000000 = 0 then "." ++ padded 3 (nanos / 1000000)
  else if nanos % 1000 = 0 then "." ++ padded 6 (nanos / 1000)
  else "." ++ padded 9 nanos

/-- The second of the minute, 60 during a leap second. -/
def Instant.secondOfMinute (t : Instant) : Nat := t.second % 60 + t.nanos / nanosPerSecond

/-- The instant as date, `T` and time of day. -/
def Instant.unzoned (t : Instant) : String :=
  t.date.text ++ "T" ++ padded 2 (t.second / 3600) ++ ":" ++ padded 2 (t.second / 60 % 60) ++ ":"
    ++ padded 2 t.secondOfMinute ++ fractionText (t.nanos % nanosPerSecond)

/-- The instant as date, `T`, time of day and `Z`. -/
def Instant.text (t : Instant) : String := t.unzoned ++ "Z"

/-- The instant with the time zone as an offset of hours and minutes. -/
def Instant.offsetText (t : Instant) : String := t.unzoned ++ "+00:00"

/-- The instant for use in a file name: date and time of day in digits, then the milliseconds. -/
def Instant.stamp (t : Instant) : String :=
  yearText t.date.year ++ padded 2 t.date.month ++ padded 2 t.date.day ++ "_"
    ++ padded 2 (t.second / 3600) ++ padded 2 (t.second / 60 % 60) ++ padded 2 t.secondOfMinute
    ++ "_" ++ padded 3 (t.nanos % nanosPerSecond / 1000000)

/-- A number of exactly two digits, and what follows it. -/
def twoDigits? (cs : List Char) : Option (Nat × List Char) :=
  match cs with
  | a :: b :: rest => if isDigit a && isDigit b then some (valueFrom 0 [a, b], rest) else none
  | _ => none

/-- A point and decimal places of a second, as nanoseconds; none is zero. -/
def nanosOf? (cs : List Char) : Option (Nat × List Char) :=
  match cs with
  | '.' :: rest =>
    let ds := rest.takeWhile isDigit
    if ds = [] then none
    else
      let nine := ds.take 9 ++ List.replicate (9 - ds.length) '0'
      some (valueFrom 0 nine, rest.drop ds.length)
  | cs => some (0, cs)

/-- A time zone as seconds east of universal time, and what follows it. -/
def zoneOf? (cs : List Char) : Option (Int × List Char) :=
  match cs with
  | 'Z' :: rest | 'z' :: rest => some (0, rest)
  | sign :: rest => do
    let factor ← if sign = '+' then some 1 else if sign = '-' then some (-1) else none
    let (hours, rest) ← twoDigits? rest
    let rest ← expect? ':' rest
    let (minutes, rest) ← twoDigits? rest
    if minutes < 60 ∧ hours < 24 then some (factor * ((hours * 3600 + minutes * 60 : Nat) : Int), rest)
    else none
  | [] => none

/-- The instant that a text writes as a date, a time of day and a time zone. -/
def Instant.ofText? (s : String) : Option Instant := do
  let (date, cs) ← dateOf? s.toList
  let cs ← match cs with
    | c :: rest => if c = 'T' ∨ c = 't' ∨ c = ' ' then some rest else none
    | [] => none
  let (hour, cs) ← twoDigits? cs
  let cs ← expect? ':' cs
  let (minute, cs) ← twoDigits? cs
  let cs ← expect? ':' cs
  let (second, cs) ← twoDigits? cs
  let (nanos, cs) ← nanosOf? cs
  let (zone, rest) ← zoneOf? (Text.trimStart cs)
  if rest ≠ [] ∨ 24 ≤ hour ∨ 60 ≤ minute ∨ 60 < second then none
  else
    let leap := second / 60
    let local_ : Int := date.epochDay * 86400 + (hour * 3600 + minute * 60 + (second - leap) : Nat)
    let universal := local_ - zone
    let day ← Date.ofEpochDay? (universal / 86400)
    return ⟨day, (universal % 86400).toNat, nanos + leap * nanosPerSecond⟩

end CatalogImport.Calendar
