import BusinessCalendar.Navigation

/-!
# The n-th occurrence of a weekday in a period

A period is a closed interval of days.  Occurrences of a weekday in it are numbered 1, 2, … from
its start and -1, -2, … from its end; there is no occurrence 0.

* `countBetween` — how many there are.
* `occurrence` — the day that a number stands for, by arithmetic alone.
* `occurrenceBetween` — the same, where the number has to exist in the period.
* `Date.nthBetween`, `Date.nthInMonth`, `Date.nthInYear` — in the periods that callers name.
-/

namespace BusinessCalendar

/-- How many days of `first..last` fall on a weekday. -/
def countBetween (first last : Int) (w : Weekday) : Int :=
  let firstMatch := first + w.daysForward first
  if firstMatch > last then 0 else (last - firstMatch) / 7 + 1

/-- The day of an occurrence, counted from the start or, if negative, from the end of the period;
0 leads to the day before the period. -/
def occurrence (first last : Int) (w : Weekday) (k : Int) : Int :=
  if k > 0 then first + w.daysForward first + (k - 1) * 7
  else if k < 0 then last - w.daysBackward last + (k + 1) * 7
  else first - 1

/-- An occurrence that the period does not have, with the number that it has. -/
def noOccurrence (first last : Int) (w : Weekday) (k : Numeral) (period : String) : Cause :=
  .ordinalNotInPeriod k w.name period (countBetween first last w)

/-- The day of an occurrence that lies in the period. -/
def occurrenceBetween (first last : Int) (w : Weekday) (k : Numeral) (period : String) :
    Except Cause Int :=
  let day := occurrence first last w k.value
  if first ≤ day ∧ day ≤ last then .ok day else .error (noOccurrence first last w k period)

namespace Date

/-- An occurrence between two moments, both included. -/
def nthBetween (first last : Moment) (w : Weekday) (k : Numeral) : Except Cause Date := do
  let day ← occurrenceBetween first.dayNumber last.dayNumber w k (first.iso ++ ".." ++ last.iso)
  atDay day

def monthStart (year month : Int) : Int := (YearMonthDay.mk year month 1).dayNumber

def monthEnd (year month : Int) : Int := monthStart year month + daysInMonth year month - 1

/-- An occurrence in a month; only the first to the fifth and the last are positions in a month. -/
def nthInMonth (year month : Int) (w : Weekday) (k : Numeral) : Except Cause Date := do
  let first := monthStart year month
  let last := monthEnd year month
  let period := monthText (year : Numeral) month
  if (MonthOrdinal.ofNumber? k.value).isNone then .error (noOccurrence first last w k period)
  let day ← occurrenceBetween first last w k period
  atDay day

/-- How many days of a month fall on a weekday. -/
def countInMonth (year month : Int) (w : Weekday) : Int :=
  countBetween (monthStart year month) (monthEnd year month) w

def nthInYear (year : Int) (w : Weekday) (k : Numeral) : Except Cause Date := do
  let first := YearMonthDay.mk year 1 1
  let last := YearMonthDay.mk year 12 31
  let day ← occurrenceBetween first.dayNumber last.dayNumber w k (first.iso ++ ".." ++ last.iso)
  atDay day

end Date

end BusinessCalendar
