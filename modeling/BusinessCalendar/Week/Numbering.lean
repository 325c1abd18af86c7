import BusinessCalendar.Week.Convention
import BusinessCalendar.Week.Iso

/-!
# Week numbers under a convention

* `WeekConvention.weekOneStart` — the day on which week 1 of a year begins, up to six days before
  or after 1 January.
* `WeekConvention.weekOfDay?` — the number of the week of a day.  A day before week 1 of its year
  takes the last number of the year before; in year 1 there is no such year.
* `WeekConvention.firstDate` — the first day of a week that the year has.
* `weekOfMonth` — weeks within a month, the first one possibly cut short.
-/

namespace BusinessCalendar

namespace WeekConvention

/-- The day on which week 1 begins in the year that starts on day `newYear`. -/
def weekOneStart (c : WeekConvention) (newYear : Int) : Int :=
  match c.rule with
  | .firstDay => newYear - (newYear % 7 - c.firstWeekday.index) % 7
  | rule =>
    -- Days from 1 January to the first day of the year on which a week starts.
    let offset := (c.firstWeekday.index - newYear % 7) % 7
    -- The partial week before that day is week 1 if it is long enough.
    if offset ≠ 0 ∧ offset ≥ rule.minDays then newYear + (offset - 7) else newYear + offset

/-- The last day before a year lies in an earlier year. -/
theorem year_before_newYearsDay (year : Int) :
    (YearMonthDay.ofDay (newYearsDay year - 1)).year < year := by
  have h := YearMonthDay.dayNumber_bounds (YearMonthDay.ofDay_proper (newYearsDay year - 1))
  rw [YearMonthDay.dayNumber_ofDay] at h
  have hstart : newYearsDay year = daysBeforeYear year := by
    simp only [newYearsDay, YearMonthDay.dayNumber, Int.sub_self, daysThrough_zero]
    omega
  refine Int.not_le.1 fun hle => ?_
  have := YearMonthDay.daysBeforeYear_mono hle
  omega

/-- The week of a day: counted from week 1 of its own year or, before that week, the week of the
last day of the year before.  The days before week 1 of the first year have none. -/
def weekOfDay? (c : WeekConvention) (n : Int) : Option Int :=
  let year := (YearMonthDay.ofDay n).year
  let day := n - c.weekOneStart (newYearsDay year)
  if 0 ≤ day then some (day / 7 + 1)
  else if year ≤ minYear then none
  else weekOfDay? c (newYearsDay year - 1)
termination_by (YearMonthDay.ofDay n).year.toNat
decreasing_by
  have := year_before_newYearsDay (YearMonthDay.ofDay n).year
  simp only [minYear] at *
  omega

/-- The week of a date; the days of year 1 before its week 1 have none. -/
def weekOfYear (c : WeekConvention) (d : Date) : Except Cause Int :=
  match c.weekOfDay? d.dayNumber with
  | some week => .ok week
  | none => .error (.resultOutOfRange d.iso (-1 : Int))

/-- The day on which a week of a year starts, whether or not the year has that week. -/
def startOfWeek (c : WeekConvention) (year week : Int) : Int :=
  c.weekOneStart (newYearsDay year) + (week - 1) * 7

/-- Whether a year has a week: its first day inside the year must have that number. -/
def hasWeek (c : WeekConvention) (year week : Int) : Bool :=
  let inYear := max (c.startOfWeek year week) (newYearsDay year)
  1 ≤ week && inYear ≤ maxDay && (YearMonthDay.ofDay inYear).year == year &&
    c.weekOfDay? inYear == some week

/-- The first day of a week that the year has; it may lie in the December before. -/
def firstDate (c : WeekConvention) (year : Int) (week : Numeral) : Except Cause Date :=
  if c.hasWeek year week.value then Date.atDay (c.startOfWeek year week.value)
  else .error (.weekNotInYear year week c.text)

end WeekConvention

/-- The week of the month that holds a date: week 1 holds the first of the month, and the others
start on `firstWeekday`. -/
def weekOfMonth (d : Date) (firstWeekday : Weekday) : Int :=
  let firstOfMonth := d.dayNumber - (d.day - 1)
  let lead := (firstOfMonth - firstWeekday.index) % 7
  (d.day - 1 + lead) / 7 + 1

end BusinessCalendar
