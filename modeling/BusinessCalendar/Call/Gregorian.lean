import BusinessCalendar.Value.Check

/-!
# Calls: days and dates

The conversions between dates and day numbers, with arguments of any kind.  Arguments are checked
from left to right; the exceptions are `shiftDays`, which looks at the number of days first, and
`moveToDayNumber`, which looks at the day number first.
-/

namespace BusinessCalendar.Call

/-- Whether a year is a leap year. -/
def isLeapYear (year : Value) : Outcome Bool := do
  return isLeap (← year.requireYear "year")

def daysInYear (year : Value) : Outcome Int := do
  return BusinessCalendar.daysInYear (← year.requireYear "year")

def daysInMonth (year month : Value) : Outcome Int := do
  let y ← year.requireYear "year"
  let m ← month.requireMonth "month"
  return BusinessCalendar.daysInMonth y m

/-- The day number of a calendar date. -/
def toDayNumber (year month day : Value) : Outcome Int := do
  let y ← year.requireYear "year"
  let m ← month.requireMonth "month"
  let d ← checkDayOfMonth y m (← day.requireInt "day")
  return (YearMonthDay.mk y m d).dayNumber

/-- The calendar date of a day number. -/
def fromDayNumber (day : Value) : Outcome YearMonthDay := do
  return YearMonthDay.ofDay (← day.requireDayNumber "day_number")

def weekdayOf (day : Value) : Outcome Weekday := do
  return Weekday.onDay (← day.requireDayNumber "day_number")

def dayNumberOf (value : Value) : Outcome Int := do
  return (← value.requireDate "value").dayNumber

def dateFromDayNumber (day : Value) : Outcome Date := do
  Date.atDay (← day.requireDayNumber "day_number")

/-- A date moved by a number of days. -/
def shiftDays (value days : Value) : Outcome Moment := do
  let k ← days.requireInt "days"
  let m ← value.requireDate "value"
  m.shift k.value

/-- A date moved to a day number. -/
def moveToDayNumber (value day : Value) : Outcome Moment := do
  let n ← day.requireDayNumber "day_number"
  let m ← value.requireDate "value"
  m.moveTo n

/-- The date of a year, a month and a day, which need not exist.  All three are taken for integers
before any is looked at. -/
def toDate (year month day : Value) : Outcome Date := do
  let y ← year.requireIndex
  let m ← month.requireIndex
  let d ← day.requireIndex
  match Date.of? { year := y, month := m, day := d } with
  | some date => return date
  | none => .error (.noSuchDate y m)

end BusinessCalendar.Call
