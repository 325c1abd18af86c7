import BusinessCalendar.Value.Check

/-!
# Calls: weeks

ISO weeks and weeks under a convention.  Where a convention is given with a date, it is looked at
before the date; where it is given with a year and a week, after them.
-/

namespace BusinessCalendar.Call

/-- A convention from a first weekday and a rule. -/
def weekConvention (firstWeekday : Value := .weekday .monday)
    (rule : Value := .number (.rule .firstFourDayWeek)) : Outcome WeekConvention := do
  let w ← firstWeekday.requireWeekday "first_weekday"
  match rule with
  | .number (.rule r) => return { firstWeekday := w, rule := r }
  | v => .error (.wrongType "rule" "WeekRule" v.kindName)

/-- The number of ISO weeks of a year. -/
def isoWeeksInYear (year : Value) : Outcome Int := do
  return BusinessCalendar.isoWeeksInYear (← year.requireYear "iso_year")

def isoWeekOf (value : Value) : Outcome IsoWeek := do
  return IsoWeek.ofDate (← value.requireDate "value").date

def firstDateOfIsoWeek (year week : Value) : Outcome Date := do
  let y ← year.requireYear "iso_year"
  let w ← week.requireInt "iso_week"
  IsoWeek.firstDate y w

def lastDateOfIsoWeek (year week : Value) : Outcome Date := do
  let y ← year.requireYear "iso_year"
  let w ← week.requireInt "iso_week"
  IsoWeek.lastDate y w

/-- The week of a date under a convention. -/
def weekOfYear (value : Value) (convention : Value := .convention .iso) : Outcome Int := do
  let c ← convention.requireConvention
  let m ← value.requireDate "value"
  c.weekOfYear m.date

/-- The week of the month that holds a date. -/
def weekOfMonth (value : Value) (firstWeekday : Value := .weekday .monday) : Outcome Int := do
  let w ← firstWeekday.requireWeekday "first_weekday"
  let m ← value.requireDate "value"
  return BusinessCalendar.weekOfMonth m.date w

/-- The first day of a week under a convention. -/
def firstDateOfWeek (year week : Value) (convention : Value := .convention .iso) :
    Outcome Date := do
  let y ← year.requireYear "year"
  let w ← week.requireInt "week"
  let c ← convention.requireConvention
  c.firstDate y w

end BusinessCalendar.Call
