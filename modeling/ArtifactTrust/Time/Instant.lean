import ArtifactTrust.Text.Ascii
import ArtifactTrust.Time.Calendar

/-!
# Instants

A point in time is a count of seconds since 1970-01-01T00:00:00Z and the nanoseconds after it. A leap second has no second
of its own: it is a nanosecond count of 1,000,000,000 and above on the second :59 before it, so it orders after that second
and before the next. `Instant.ofSeconds?` holds the range of representable seconds.
-/

namespace ArtifactTrust

/-- A point in time. -/
structure Instant where
  seconds : Int
  nanos : Nat
  deriving DecidableEq, Repr

/-- A date and a time of day in UTC, the second running to 60 in a leap second. -/
structure DateTime where
  date : Date
  hour : Nat
  minute : Nat
  second : Nat
  nanos : Nat
  deriving DecidableEq, Repr

namespace Instant

/-- Earlier or the same: by the second, then by the nanosecond. -/
instance : LE Instant where
  le a b := a.seconds < b.seconds ∨ (a.seconds = b.seconds ∧ a.nanos ≤ b.nanos)

instance (a b : Instant) : Decidable (a ≤ b) :=
  inferInstanceAs (Decidable (a.seconds < b.seconds ∨ (a.seconds = b.seconds ∧ a.nanos ≤ b.nanos)))

/-- The first representable second, in the year -262143. -/
def firstSecond : Int := -8334601228800

/-- The last representable second, in the year 262142. -/
def lastSecond : Int := 8210266876799

/-- Whether a second is representable. -/
def inRange (seconds : Int) : Bool := firstSecond ≤ seconds && seconds ≤ lastSecond

/-- The instant at a full second, if it is representable. -/
def ofSeconds? (seconds : Int) : Option Instant :=
  if inRange seconds then some ⟨seconds, 0⟩ else none

/-- The instant at a millisecond, if it is representable. -/
def ofMillis? (millis : Int) : Option Instant :=
  if inRange (millis / 1000) then some ⟨millis / 1000, (millis % 1000).toNat * 1000000⟩ else none

/-- Whether a second and a count of nanoseconds are an instant: nanoseconds of a second and more belong to a leap second and
need the last second of a minute. -/
def isValid (seconds : Int) (nanos : Nat) : Bool :=
  inRange seconds && (nanos < 1000000000 || (nanos < 2000000000 && seconds % 60 == 59))

/-- The instant of a date and time of day. -/
def ofDateTime (t : DateTime) : Instant :=
  let dayStart := t.date.dayNumber * 86400
  if t.second = 60 then
    ⟨dayStart + (t.hour * 3600 + t.minute * 60 + 59 : Nat), t.nanos + 1000000000⟩
  else ⟨dayStart + (t.hour * 3600 + t.minute * 60 + t.second : Nat), t.nanos⟩

/-- The date and time of day of an instant. -/
def toDateTime (t : Instant) : DateTime :=
  let place := (t.seconds % 86400).toNat
  let leap := 1000000000 ≤ t.nanos
  { date := Date.ofDayNumber (t.seconds / 86400)
    hour := place / 3600
    minute := place / 60 % 60
    second := if leap then place % 60 + 1 else place % 60
    nanos := if leap then t.nanos - 1000000000 else t.nanos }

end Instant

namespace DateTime

/-- A year has four digits from 0 to 9999, and a sign and at least four digits outside. -/
def yearText (year : Int) : List Char :=
  if 0 ≤ year ∧ year ≤ 9999 then Ascii.padded 4 year.toNat
  else if year < 0 then '-' :: Ascii.padded 4 year.natAbs
  else '+' :: Ascii.padded 4 year.natAbs

/-- The year, month and day, with dashes. -/
def dateText (d : Date) : List Char :=
  yearText d.year ++ '-' :: Ascii.padded 2 d.month ++ '-' :: Ascii.padded 2 d.day

/-- A fraction of a second has no digits, or as few of 3, 6 and 9 as show all of it. -/
def fractionText (nanos : Nat) : List Char :=
  if nanos = 0 then []
  else if nanos % 1000000 = 0 then '.' :: Ascii.padded 3 (nanos / 1000000)
  else if nanos % 1000 = 0 then '.' :: Ascii.padded 6 (nanos / 1000)
  else '.' :: Ascii.padded 9 nanos

/-- The hour, minute, second and fraction, with colons. -/
def clockText (t : DateTime) : List Char :=
  Ascii.padded 2 t.hour ++ ':' :: Ascii.padded 2 t.minute ++ ':' :: Ascii.padded 2 t.second ++ fractionText t.nanos

end DateTime

/-- An instant as messages show it. -/
def Instant.text (t : Instant) : String :=
  let d := t.toDateTime
  String.ofList (DateTime.dateText d.date ++ ' ' :: d.clockText) ++ " UTC"

end ArtifactTrust
