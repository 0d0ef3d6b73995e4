/-!
# Instants

A point of universal time: whole seconds from the start of 1970 and nanoseconds within the second. A
leap second is the second before it with a thousand million nanoseconds or more. Days are counted in
the Gregorian calendar, extended to all years; year 0 comes before year 1.
-/

namespace Stencil

set_option autoImplicit false

structure Instant where
  seconds : Int
  nanos : Nat
deriving DecidableEq

structure CivilDate where
  year : Int
  month : Nat
  day : Nat
deriving DecidableEq

namespace CivilDate

/-- The date a number of days after the first of January 1970. Years are counted from March, so that
a leap day is the last of its year, in eras of 400 years. -/
def ofDays (days : Int) : CivilDate :=
  let shifted := days + 719468
  let era := shifted / 146097
  let dayOfEra := (shifted % 146097).toNat
  let yearOfEra := (dayOfEra - dayOfEra / 1460 + dayOfEra / 36524 - dayOfEra / 146096) / 365
  let dayOfYear := dayOfEra - (365 * yearOfEra + yearOfEra / 4 - yearOfEra / 100)
  let monthFromMarch := (5 * dayOfYear + 2) / 153
  let month := if monthFromMarch < 10 then monthFromMarch + 3 else monthFromMarch - 9
  { year := yearOfEra + era * 400 + (if month ≤ 2 then 1 else 0)
    month := month
    day := dayOfYear - (153 * monthFromMarch + 2) / 5 + 1 }

def isLeapYear (year : Int) : Bool :=
  year % 4 = 0 && (year % 100 ≠ 0 || year % 400 = 0)

def monthLengths (year : Int) : List Nat :=
  [31, if isLeapYear year then 29 else 28, 31, 30, 31, 30, 31, 31, 30, 31, 30, 31]

/-- The number of the day within its year, from 1. -/
def dayOfYear (d : CivilDate) : Nat :=
  ((monthLengths d.year).take (d.month - 1)).foldl (· + ·) d.day

end CivilDate

namespace Instant

def days (t : Instant) : Int := t.seconds / 86400

def secondOfDay (t : Instant) : Nat := (t.seconds % 86400).toNat

def date (t : Instant) : CivilDate := .ofDays t.days

def hour (t : Instant) : Nat := t.secondOfDay / 3600

def minute (t : Instant) : Nat := t.secondOfDay / 60 % 60

/-- A leap second is the sixtieth. -/
def second (t : Instant) : Nat := t.secondOfDay % 60 + t.nanos / 1000000000

def nanosecond (t : Instant) : Nat := t.nanos % 1000000000

/-- From 0 for Monday to 6 for Sunday. -/
def weekday (t : Instant) : Nat := ((t.days + 3) % 7).toNat

/-- A week belongs to the year that holds its Thursday. -/
def weekThursday (t : Instant) : CivilDate := .ofDays (t.days - t.weekday + 3)

def isoYear (t : Instant) : Int := t.weekThursday.year

def isoWeek (t : Instant) : Nat := (t.weekThursday.dayOfYear - 1) / 7 + 1

/-- Weeks begin on the day `firstDay`; days before the first such day of the year are in week 0. -/
def weekOfYear (t : Instant) (firstDay : Nat) : Nat :=
  (t.date.dayOfYear + 6 - (t.weekday + 7 - firstDay) % 7) / 7

def isAfter (t u : Instant) : Bool :=
  u.seconds < t.seconds || (u.seconds = t.seconds && u.nanos < t.nanos)

/-- The decimal digits of `n`, with zeros before them up to `width` characters. -/
def zeroPadded (width n : Nat) : String :=
  let ds := Nat.toDigits 10 n
  String.ofList (List.replicate (width - ds.length) '0' ++ ds)

/-- Four digits, or a sign and at least four when the year has not four digits. -/
def yearText (year : Int) : String :=
  if 0 ≤ year ∧ year ≤ 9999 then zeroPadded 4 year.toNat
  else (if year < 0 then "-" else "+") ++ zeroPadded 4 year.natAbs

/-- As few of 0, 3, 6 and 9 digits as hold the fraction, behind a point. -/
def fractionText (nanos : Nat) : String :=
  if nanos = 0 then ""
  else if nanos % 1000000 = 0 then "." ++ zeroPadded 3 (nanos / 1000000)
  else if nanos % 1000 = 0 then "." ++ zeroPadded 6 (nanos / 1000)
  else "." ++ zeroPadded 9 nanos

def textInZone (zone : String) (t : Instant) : String :=
  yearText t.date.year ++ "-" ++ zeroPadded 2 t.date.month ++ "-" ++ zeroPadded 2 t.date.day ++
    "T" ++ zeroPadded 2 t.hour ++ ":" ++ zeroPadded 2 t.minute ++ ":" ++ zeroPadded 2 t.second ++
    fractionText t.nanosecond ++ zone

/-- Date and time as in `2024-03-01T12:30:05.250+00:00`. -/
def text (t : Instant) : String := t.textInZone "+00:00"

end Instant

end Stencil
