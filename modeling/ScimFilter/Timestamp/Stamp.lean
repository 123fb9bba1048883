import ScimFilter.Timestamp.Calendar
/-!
The fields read from a date or time text, and when they make a date, a local date and time, or
an instant. A second of 60 is a leap second and is accepted. An instant also needs its zone
offset below a day and must fall within the supported dates once the offset is taken off.
-/

namespace ScimFilter.Timestamp

/-- Fields of a date-time text. Fields a text does not give keep their defaults. -/
structure Stamp where
  year : Int := 0
  month : Nat := 0
  day : Nat := 0
  hour : Nat := 0
  minute : Nat := 0
  second : Nat := 0
  nanosecond : Nat := 0
  /-- The weekday the text names, Monday being 0. -/
  weekday : Option Nat := none
  /-- Seconds east of universal time. -/
  offset : Int := 0
  deriving DecidableEq, Repr

namespace Stamp

/-- The fields name a supported date, and its weekday if the text names one. -/
def isDate (s : Stamp) : Bool :=
  isValidDate s.year s.month s.day &&
    s.weekday.all (· == Timestamp.weekday s.year s.month s.day)

/-- The time fields are in range; a second of 60 is a leap second. -/
def isTime (s : Stamp) : Bool :=
  s.hour ≤ 23 && s.minute ≤ 59 && s.second ≤ 60 && s.nanosecond < 1000000000

def isLocal (s : Stamp) : Bool :=
  s.isDate && s.isTime

/-- Seconds from the first supported instant to the last. -/
def firstSecond : Int := daysFromEpoch minYear 1 1 * 86400
def lastSecond : Int := daysFromEpoch maxYear 12 31 * 86400 + 86399

/-- An instant: a local date and time, an offset below a day, and universal time within the
supported dates. -/
def isInstant (s : Stamp) : Bool :=
  let wall := daysFromEpoch s.year s.month s.day * 86400 + s.hour * 3600 + s.minute * 60 +
    min s.second 59
  let universal := wall - s.offset
  s.isLocal && s.offset.natAbs < 86400 && firstSecond ≤ universal && universal ≤ lastSecond

end Stamp

end ScimFilter.Timestamp
