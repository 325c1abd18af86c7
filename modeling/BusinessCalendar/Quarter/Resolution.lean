import BusinessCalendar.Occurrence
import BusinessCalendar.Quarter.Basic
import BusinessCalendar.Quarter.Definition

/-!
# Resolving quarters

The quarter of a date and the boundaries of a quarter, both directly from the anchor.  The year
of a quarter is the calendar year in which its fiscal year starts.

* `Anchor.startDay` — the ideal first day of a quarter on the unbounded line of days.
* `Anchor.boundary` — the same where it can be a boundary: a representable day, or the day after
  the last one, which ends the last quarter.
* `Anchor.locate` — the fiscal year and the index of the quarter that holds a date.
* `Quarter.resolve`, `Quarter.ofIndex`, `Quarter.ofYear` — resolved quarters.
-/

namespace BusinessCalendar

namespace Anchor

/-- Months from January of the fiscal year's calendar year to the start of a quarter. -/
def monthOffset (a : Anchor) (quarter : Int) : Int := a.month - 1 + (quarter - 1) * 3

/-- The calendar year in which a quarter starts. -/
def startYear (a : Anchor) (year quarter : Int) : Int := year + a.monthOffset quarter / 12

/-- The month in which a quarter starts. -/
def startMonth (a : Anchor) (quarter : Int) : Int := a.monthOffset quarter % 12 + 1

/-- The first day of a quarter on the unbounded line of days; quarter 5 is the first of the next
fiscal year. -/
def startDay (a : Anchor) (year quarter : Int) : Int :=
  (YearMonthDay.mk (a.startYear year quarter) (a.startMonth quarter) a.day).dayNumber

/-- The first day of a quarter as a boundary.  Past the representable years only 1 January of
year 10000 is one: the day after the last representable day. -/
def boundary (a : Anchor) (year quarter : Int) : Except Cause Int :=
  if a.startYear year quarter = maxYear + 1 ∧ a.startMonth quarter = 1 ∧ a.day = 1 then
    .ok (maxDay + 1)
  else do
    let _ ← checkYear "year" (a.startYear year quarter)
    return a.startDay year quarter

/-- The fiscal year and the quarter of a date.  Days before the anchor day in the month in which
a quarter starts belong to the quarter before. -/
def locate (a : Anchor) (d : YearMonthDay) : Int × Int :=
  let byMonth := (d.month - a.month + 12) % 12 / 3 + 1
  let quarter :=
    if (d.month - a.month) % 3 = 0 ∧ d.day < a.day then
      if byMonth - 1 = 0 then 4 else byMonth - 1
    else byMonth
  let reached := a.month < d.month ∨ (a.month = d.month ∧ a.day ≤ d.day)
  (if reached then d.year else d.year - 1, quarter)

end Anchor

/-- A quarter must lie between 1 and 4. -/
def checkQuarter (argument : String) (n : Numeral) : Except Cause Int :=
  if 1 ≤ n.value ∧ n.value ≤ 4 then .ok n.value else .error (.quarterOutOfRange argument n)

namespace Date

def quarterStart (year quarter : Int) (a : Anchor) : Except Cause Date := do
  atDay (← a.boundary year quarter)

/-- The last day of a quarter, the day before the next one starts. -/
def quarterEnd (year quarter : Int) (a : Anchor) : Except Cause Date := do
  atDay ((← a.boundary year (quarter + 1)) - 1)

end Date

namespace Quarter

/-- The quarter of an index in a fiscal year; the start is computed before the end. -/
def ofIndex (year quarter : Int) (a : Anchor) : Except Cause Quarter := do
  let start ← a.boundary year quarter
  let next ← a.boundary year (quarter + 1)
  return { year, index := quarter, start := ← Date.atDay start, stop := ← Date.atDay (next - 1) }

def resolve (d : Date) (a : Anchor) : Except Cause Quarter :=
  let (year, quarter) := a.locate d.toYearMonthDay
  if year < minYear then .error (.yearOutOfRange "fiscal_year" year)
  else ofIndex year quarter a

/-- The four quarters of a fiscal year. -/
def ofYear (year : Int) (a : Anchor) : Except Cause (List Quarter) :=
  [1, 2, 3, 4].mapM fun quarter => ofIndex year quarter a

/-- The n-th occurrence of a weekday in a quarter. -/
def nthOccurrence (q : Quarter) (w : Weekday) (k : Numeral) : Except Cause Date :=
  Date.nthBetween q.start q.stop w k

end Quarter

end BusinessCalendar
