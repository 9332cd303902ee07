/-!
# The civil calendar

The proleptic Gregorian calendar: which dates exist, and the numbering of days with 0 for 1970-01-01. `Date.dayNumber` and
`Date.ofDayNumber` go between the two; years before 1 count down through 0, as in ISO 8601.
-/

namespace ArtifactTrust

/-- A year, a month from 1 and a day of the month from 1. `Date.exists?` tells whether the calendar has it. -/
structure Date where
  year : Int
  month : Nat
  day : Nat
  deriving DecidableEq, Repr

namespace Date

/-- Every fourth year is a leap year, except a century not divisible by 400. -/
def isLeap (year : Int) : Bool := year % 4 == 0 && (year % 100 != 0 || year % 400 == 0)

/-- The number of days of a month, 0 for a month that does not exist. -/
def daysInMonth (year : Int) (month : Nat) : Nat :=
  match month with
  | 1 | 3 | 5 | 7 | 8 | 10 | 12 => 31
  | 4 | 6 | 9 | 11 => 30
  | 2 => if isLeap year then 29 else 28
  | _ => 0

/-- Whether the calendar has this date. -/
def exists? (d : Date) : Bool := 1 ≤ d.day && d.day ≤ daysInMonth d.year d.month

/-- The days of a year before a month begins. -/
def daysBeforeMonth (year : Int) (month : Nat) : Nat :=
  (List.range (month - 1)).foldl (fun days m => days + daysInMonth year (m + 1)) 0

/-- The number of days from 0001-01-01 to the first day of a year. -/
def daysBeforeYear (year : Int) : Int :=
  365 * (year - 1) + (year - 1) / 4 - (year - 1) / 100 + (year - 1) / 400

/-- The number of days from 0001-01-01 to 1970-01-01. -/
def epochOffset : Int := 719162

/-- The number of a date's day, 1970-01-01 being day 0. -/
def dayNumber (d : Date) : Int :=
  daysBeforeYear d.year - epochOffset + daysBeforeMonth d.year d.month + (d.day : Int) - 1

/-- The year that holds a day counted from 0001-01-01. Within a cycle of 400 years, `days / 366` falls short of the
year by at most one. -/
def yearOfDay (days : Int) : Int :=
  let cycle := days / 146097
  let base := 400 * cycle + 1
  let guess := base + (days % 146097) / 366
  if daysBeforeYear (guess + 1) ≤ days then guess + 1 else guess

/-- The month and day of the day with this place in its year, counted from 0. -/
def monthAndDay (year : Int) (place : Nat) : Nat × Nat :=
  let rec go : (left month place : Nat) → Nat × Nat
    | 0, month, place => (month, place + 1)
    | left + 1, month, place =>
      if place < daysInMonth year month then (month, place + 1)
      else go left (month + 1) (place - daysInMonth year month)
  go 11 1 place

/-- The date of a day number. -/
def ofDayNumber (n : Int) : Date :=
  let days := n + epochOffset
  let year := yearOfDay days
  let (month, day) := monthAndDay year (days - daysBeforeYear year).toNat
  ⟨year, month, day⟩

end Date

end ArtifactTrust
