import BusinessCalendar.Call.Gregorian
import BusinessCalendar.Occurrence

/-!
# Calls: weekdays around a date and within a period

Searches look at the weekday before they look at the date.  In a week function the first weekday is
reported under the name of the search it comes down to: `weekday` for the start of the week,
`first_weekday` for its end.
-/

namespace BusinessCalendar.Call

/-- A search for a weekday from a date. -/
def search (find : Moment → Weekday → Except Cause Moment) (value weekday : Value) :
    Outcome Moment := do
  let w ← weekday.requireWeekday "weekday"
  let m ← value.requireDate "value"
  find m w

/-- The first date on a weekday, from this one on. -/
def nextOnOrAfter (value weekday : Value) : Outcome Moment := search Moment.onOrAfter value weekday

/-- The last date on a weekday, up to this one. -/
def previousOnOrBefore (value weekday : Value) : Outcome Moment :=
  search Moment.onOrBefore value weekday

/-- The first date on a weekday after this one. -/
def strictlyNext (value weekday : Value) : Outcome Moment :=
  search Moment.strictlyAfter value weekday

/-- The last date on a weekday before this one. -/
def strictlyPrevious (value weekday : Value) : Outcome Moment :=
  search Moment.strictlyBefore value weekday

/-- The date on a weekday that is closest to this one. -/
def nearest (value weekday : Value) : Outcome Moment := search Moment.nearest value weekday

/-- The first day of the week that holds a date. -/
def firstDayOfWeek (value : Value) (firstWeekday : Value := .weekday .monday) : Outcome Moment :=
  search Moment.weekStart value firstWeekday

/-- The last day of the week that holds a date. -/
def lastDayOfWeek (value : Value) (firstWeekday : Value := .weekday .monday) : Outcome Moment := do
  let w ← firstWeekday.requireWeekday "first_weekday"
  let m ← value.requireDate "value"
  m.weekEnd w

/-- The n-th date on a weekday between two dates. -/
def nthBetween (first last weekday occurrence : Value) : Outcome Date := do
  let w ← weekday.requireWeekday "weekday"
  let k ← occurrence.requireInt "occurrence"
  let a ← first.requireDate "value"
  let b ← last.requireDate "value"
  Date.nthBetween a b w k

/-- The n-th date on a weekday in a month. -/
def nthInMonth (year month weekday ordinal : Value) : Outcome Date := do
  let y ← year.requireYear "year"
  let m ← month.requireMonth "month"
  let w ← weekday.requireWeekday "weekday"
  let k ← ordinal.requireInt "ordinal"
  Date.nthInMonth y m w k

/-- The n-th date on a weekday in a calendar year. -/
def nthInYear (year weekday occurrence : Value) : Outcome Date := do
  let y ← year.requireYear "year"
  let w ← weekday.requireWeekday "weekday"
  let k ← occurrence.requireInt "occurrence"
  Date.nthInYear y w k

/-- How many days of a month fall on a weekday. -/
def countInMonth (year month weekday : Value) : Outcome Int := do
  let y ← year.requireYear "year"
  let m ← month.requireMonth "month"
  let w ← weekday.requireWeekday "weekday"
  return Date.countInMonth y m w

end BusinessCalendar.Call
