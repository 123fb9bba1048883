/-!
The proleptic Gregorian calendar with astronomical year numbers (year 0 is 1 BCE). Dates are
counted in days from 1970-01-01; weekdays are numbered from Monday, 0, to Sunday, 6. Dates are
supported from the first day of year -262143 to the last day of year 262142.
-/

namespace ScimFilter.Timestamp

/-- Leap years: divisible by 4, and not by 100 unless by 400. -/
def isLeapYear (y : Int) : Bool :=
  y % 4 == 0 && (y % 100 != 0 || y % 400 == 0)

/-- The number of days of a month (1 to 12) in a year. -/
def daysInMonth (y : Int) (m : Nat) : Nat :=
  match m with
  | 2 => if isLeapYear y then 29 else 28
  | 4 | 6 | 9 | 11 => 30
  | _ => 31

/-- The first and the last supported year. -/
def minYear : Int := -262143
def maxYear : Int := 262142

/-- Whether year, month and day name a supported date. -/
def isValidDate (y : Int) (m d : Nat) : Bool :=
  minYear ≤ y && y ≤ maxYear && 1 ≤ m && m ≤ 12 && 1 ≤ d && d ≤ daysInMonth y m

/-- Days from 1970-01-01 to a date; the year is counted from March so that the leap day
falls last. -/
def daysFromEpoch (y : Int) (m d : Nat) : Int :=
  let y := if m ≤ 2 then y - 1 else y
  let era := y.fdiv 400
  let yearOfEra := y - era * 400
  let marchMonth : Nat := (m + 9) % 12
  let dayOfYear : Int := ((153 * marchMonth + 2) / 5 + d - 1 : Nat)
  let dayOfEra := yearOfEra * 365 + yearOfEra.fdiv 4 - yearOfEra.fdiv 100 + dayOfYear
  era * 146097 + dayOfEra - 719468

/-- The weekday of a date, Monday being 0; 1970-01-01 was a Thursday. -/
def weekday (y : Int) (m d : Nat) : Nat :=
  ((daysFromEpoch y m d + 3) % 7).toNat

example : daysFromEpoch 1970 1 1 = 0 ∧ daysFromEpoch 2000 3 1 = 11017 ∧ weekday 2011 5 13 = 4 := by
  decide

end ScimFilter.Timestamp
