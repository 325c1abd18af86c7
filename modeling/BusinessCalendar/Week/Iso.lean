import BusinessCalendar.Gregorian.Date

/-!
# ISO 8601 weeks

Weeks start on Monday, and week 1 of a year is the week with the year's first Thursday, which is
the week with 4 January.

* `isoWeeksInYear` — 53 when 1 January is a Thursday, or a Wednesday in a leap year; else 52.
* `IsoWeek.ofDate` — the week of a date, by way of the Thursday of its week.
* `IsoWeek.monday` — the Monday of a week, by way of 4 January.
-/

namespace BusinessCalendar

/-- A year of ISO 8601 and a week in it. -/
structure IsoWeek where
  year : Int
  week : Int
deriving DecidableEq, Repr

/-- The day of 1 January. -/
def newYearsDay (year : Int) : Int := (YearMonthDay.mk year 1 1).dayNumber

/-- The number of ISO weeks of a year. -/
def isoWeeksInYear (year : Int) : Int :=
  let weekday := Weekday.onDay (newYearsDay year)
  if weekday = .thursday ∨ (weekday = .wednesday ∧ isLeap year) then 53 else 52

namespace IsoWeek

/-- The Thursday of the week, Monday to Sunday, that holds a day. -/
def thursdayOf (n : Int) : Int := n - n % 7 + Weekday.thursday.index

/-- The week of a day, in the calendar year of its Thursday. -/
def ofDay (n : Int) : IsoWeek :=
  let thursday := thursdayOf n
  let year := (YearMonthDay.ofDay thursday).year
  { year, week := (thursday - newYearsDay year) / 7 + 1 }

def ofDate (d : Date) : IsoWeek := ofDay d.dayNumber

/-- The Monday on which a week starts, counted from the week with 4 January. -/
def mondayDay (year week : Int) : Int :=
  let fourth := (YearMonthDay.mk year 1 4).dayNumber
  fourth - fourth % 7 + (week - 1) * 7

/-- The day of the Monday of a week that the year has. -/
def monday (year : Int) (week : Numeral) : Except Cause Int :=
  let weeks := isoWeeksInYear year
  if 1 ≤ week.value ∧ week.value ≤ weeks then .ok (mondayDay year week.value)
  else .error (.isoWeekOutOfRange year week weeks)

def firstDate (year : Int) (week : Numeral) : Except Cause Date := do
  Date.atDay (← monday year week)

def lastDate (year : Int) (week : Numeral) : Except Cause Date := do
  Date.atDay ((← monday year week) + 6)

end IsoWeek

end BusinessCalendar
