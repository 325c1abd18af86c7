import BusinessCalendar.FiscalYear.Basic

/-!
# Weeks, months and quarters of a fiscal year

A quarter has 13 weeks, in months of 5, 4 and 4 weeks.  A 53rd week belongs to the last quarter
and to the last month.  A date outside the year is refused, never wrapped.

* `FiscalYear.weekIndex` — the week of a date, counted from 0; everything else follows from it.
* `FiscalYear.quarterOf`, `FiscalYear.monthOf`, `FiscalYear.weekOf` — counted from 1.
* `FiscalYear.quarterStart`, `FiscalYear.quarterStop` — the ends of a date's quarter.
-/

namespace BusinessCalendar

/-- Weeks per month within each quarter. -/
def fiscalMonthWeeks : List Int := [5, 4, 4]

/-- The month, counted from 0, that a week falls in; the last month takes all weeks that are left. -/
def monthWithin : List Int → Int → Int
  | [], _ => 0
  | [_], _ => 0
  | weeks :: rest, week => if week < weeks then 0 else 1 + monthWithin rest (week - weeks)

namespace FiscalYear

/-- The week of a day, counted from 0 at the start of the year; below 0 before it. -/
def weekIndexOfDay (y : FiscalYear) (n : Int) : Int :=
  (n - (n - y.firstWeekday.index) % 7 - y.start.dayNumber) / 7

/-- The week of a date in the year.  To refuse a date the last day of the year is put into words,
so that a year which ends after the last representable day refuses with that day instead. -/
def weekIndex (y : FiscalYear) (d : Date) : Except Cause Int :=
  let week := y.weekIndexOfDay d.dayNumber
  if week < 0 ∨ week ≥ y.weeks then do
    let stop ← y.stop
    .error (.dateOutsideFiscalYear d.iso y.start.iso stop.iso)
  else .ok week

/-- The quarter of a week that is counted from 0. -/
def quarterOfWeek (week : Int) : Int := min (week / 13 + 1) 4

/-- The month of a week that is counted from 0. -/
def monthOfWeek (week : Int) : Int :=
  let quarter := min (week / 13) 3
  quarter * 3 + monthWithin fiscalMonthWeeks (week - quarter * 13) + 1

def weekOf (y : FiscalYear) (d : Date) : Except Cause Int := do
  return (← y.weekIndex d) + 1

/-- The month of a date, 1 to 12. -/
def monthOf (y : FiscalYear) (d : Date) : Except Cause Int := do
  return monthOfWeek (← y.weekIndex d)

/-- The quarter of a date, 1 to 4. -/
def quarterOf (y : FiscalYear) (d : Date) : Except Cause Int := do
  return quarterOfWeek (← y.weekIndex d)

def startOfQuarter (y : FiscalYear) (quarter : Int) : Except Cause Date :=
  Date.atDay (y.start.dayNumber + (quarter - 1) * 13 * 7)

/-- The first day of the quarter that holds a date. -/
def quarterStart (y : FiscalYear) (d : Date) : Except Cause Date := do
  y.startOfQuarter (← y.quarterOf d)

/-- The last day of the quarter that holds a date; the last quarter ends with the year. -/
def quarterStop (y : FiscalYear) (d : Date) : Except Cause Date := do
  let quarter ← y.quarterOf d
  if quarter = 4 then y.stop else Date.atDay (y.start.dayNumber + quarter * 13 * 7 - 1)

/-- The calendar month in which a quarter starts. -/
def startMonth (y : FiscalYear) (quarter : Int) : Except Cause Int := do
  return (← y.startOfQuarter quarter).month

end FiscalYear

end BusinessCalendar
