import Accounts.Decimal.Shortest

/-!
# Points in time

A timestamp is a reading of a calendar and a clock, to the microsecond, together with the distance
of that clock from universal time if it is known. The calendar is the Gregorian one, extended to all
years.
-/

namespace Accounts

/-- A reading of calendar and clock in microseconds since the start of 1970, and the seconds that
the clock is ahead of universal time. Without an offset the reading is local to wherever it was
taken. -/
structure Timestamp where
  reading : Int
  offset : Option Int
  deriving DecidableEq, Repr

namespace Timestamp

def microsPerSecond : Int := 1000000

def secondsPerDay : Int := 86400

def microsPerDay : Int := secondsPerDay * microsPerSecond

/-- A moment of universal time. -/
def utc (micros : Int) : Timestamp := ⟨micros, some 0⟩

/-- A span of seconds in whole microseconds, the nearest and of two equally near ones the even one.
What is not finite is no span. -/
def span? : Decimal.Binary64 → Option Int
  | .finite negative mantissa exponent =>
    let n := (Decimal.Binary64.units negative mantissa exponent).natAbs * 1000000
    let size : Int := Decimal.Binary64.roundAt n Decimal.Binary64.unitsPerOne 0
    some (if negative then -size else size)
  | _ => none

/-- The moment in microseconds since the start of 1970, universal time; a local reading is taken as
it is. -/
def instant (t : Timestamp) : Int := t.reading - t.offset.getD 0 * microsPerSecond

/-- The days from the start of 1970 to a date. Years are counted from March on, so that the leap day
is the last of its year. -/
def daysOfDate (year : Int) (month day : Nat) : Int :=
  let y := if month ≤ 2 then year - 1 else year
  let era := y / 400
  let yearOfEra := y % 400
  let shifted : Int := if month > 2 then (month : Int) - 3 else (month : Int) + 9
  let dayOfYear := (153 * shifted + 2) / 5 + day - 1
  era * 146097 + yearOfEra * 365 + yearOfEra / 4 - yearOfEra / 100 + dayOfYear - 719468

/-- The date a number of days after the start of 1970: year, month and day. -/
def dateOfDays (days : Int) : Int × Nat × Nat :=
  let z := days + 719468
  let era := z / 146097
  let dayOfEra := z % 146097
  let yearOfEra := (dayOfEra - dayOfEra / 1460 + dayOfEra / 36524 - dayOfEra / 146096) / 365
  let dayOfYear := dayOfEra - (365 * yearOfEra + yearOfEra / 4 - yearOfEra / 100)
  let shifted := (5 * dayOfYear + 2) / 153
  let day := dayOfYear - (153 * shifted + 2) / 5 + 1
  let month := if shifted < 10 then shifted + 3 else shifted - 9
  let year := yearOfEra + era * 400
  (if month ≤ 2 then year + 1 else year, month.toNat, day.toNat)

def isLeapYear (year : Nat) : Bool := year % 4 = 0 && (year % 100 != 0 || year % 400 = 0)

def daysInMonth (year month : Nat) : Nat :=
  if month = 2 then if isLeapYear year then 29 else 28
  else if [4, 6, 9, 11].contains month then 30 else 31

/-- The least reading that a timestamp can show: the start of year 1. -/
def minReading : Int := daysOfDate 1 1 1 * microsPerDay

/-- The greatest one: the last microsecond of year 9999. -/
def maxReading : Int := daysOfDate 10000 1 1 * microsPerDay - 1

/-- Readings of the years 1 to 9999 can be shown. -/
def inRange (reading : Int) : Bool := minReading ≤ reading && reading ≤ maxReading

open Decimal.Shortest (padLeft natText)

/-- A number of at least `width` digits. -/
def padded (width n : Nat) : List Char := padLeft width (natText n)

/-- The offset as text: "Z" for universal time. -/
def offsetText : Option Int → List Char
  | none => []
  | some 0 => ['Z']
  | some seconds =>
    let minutes := seconds.natAbs / 60
    (if seconds < 0 then '-' else '+') :: padded 2 (minutes / 60) ++ ':' :: padded 2 (minutes % 60)

/-- The text of a timestamp. Microseconds are shown, all six digits, when there are any. -/
def text (t : Timestamp) : String :=
  let (year, month, day) := dateOfDays (t.reading / microsPerDay)
  let inDay := (t.reading % microsPerDay).toNat
  let second := inDay / 1000000
  let micros := inDay % 1000000
  String.ofList <|
    padded 4 year.toNat ++ '-' :: padded 2 month ++ '-' :: padded 2 day ++
      'T' :: padded 2 (second / 3600) ++ ':' :: padded 2 (second / 60 % 60) ++
      ':' :: padded 2 (second % 60) ++
      (if micros = 0 then [] else '.' :: padded 6 micros) ++ offsetText t.offset

end Timestamp

end Accounts
