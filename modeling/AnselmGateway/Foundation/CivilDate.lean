import Mathlib.Algebra.Order.Ring.Int
import AnselmGateway.Foundation.Clock

/-! The proleptic Gregorian calendar over day numbers, counted from 1970-01-01.
Years start in March inside the computations, so the leap day comes last. -/
namespace AnselmGateway.Foundation

def dayLength : ℤ := 24 * 60 * minute

structure CivilDate where
  year : ℤ
  month : ℤ
  dayOfMonth : ℤ
  deriving DecidableEq, Repr

/-- The date of a day number. -/
def CivilDate.ofDays (days : ℤ) : CivilDate :=
  let shifted := days + 719468
  let ofEra := shifted % 146097
  let yearOfEra := (ofEra - ofEra / 1460 + ofEra / 36524 - ofEra / 146096) / 365
  let ofYear := ofEra - (365 * yearOfEra + yearOfEra / 4 - yearOfEra / 100)
  let monthOfYear := (5 * ofYear + 2) / 153
  let month := if monthOfYear < 10 then monthOfYear + 3 else monthOfYear - 9
  { year := yearOfEra + shifted / 146097 * 400 + if month ≤ 2 then 1 else 0
    month := month
    dayOfMonth := ofYear - (153 * monthOfYear + 2) / 5 + 1 }

/-- The day number of a date. A day past the end of its month runs into the
next one. -/
def CivilDate.toDays (date : CivilDate) : ℤ :=
  let year := if date.month ≤ 2 then date.year - 1 else date.year
  let yearOfEra := year % 400
  let monthOfYear := if date.month > 2 then date.month - 3 else date.month + 9
  let ofYear := (153 * monthOfYear + 2) / 5 + date.dayOfMonth - 1
  year / 400 * 146097 + (yearOfEra * 365 + yearOfEra / 4 - yearOfEra / 100 + ofYear) - 719468

/-- The same date and time of day, so many years on; the leap day of a year that
has none is the first of March. -/
def addYears (years : ℤ) (instant : ℤ) : ℤ :=
  let date := CivilDate.ofDays (instant / dayLength)
  { date with year := date.year + years }.toDays * dayLength + instant % dayLength

example : addYears 1000 (unix 1709208000) = unix 33266116800 := by decide

end AnselmGateway.Foundation
