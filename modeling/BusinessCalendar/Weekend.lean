import BusinessCalendar.Moment.Basic

/-!
# Weekends and working days

A weekend is a classification of the seven weekdays.  Built-in definitions name five of them.

* `Weekend.ofDays`, `Weekend.days` — a weekend from a list of weekdays, and its days from Monday on.
* `Weekend.distance?` — days to the nearest working day, forward or backward.
* `Moment.nextWorkingDay`, `Moment.previousWorkingDay` — the moment that many days away.
-/

namespace BusinessCalendar

/-- Which weekdays count as the weekend. -/
inductive WeekendDefinition where
  | saturdaySunday
  | fridaySaturday
  | thursdayFriday
  /-- Sunday, with a working week of six days. -/
  | sundayOnly
  | fridayOnly
  | custom
deriving DecidableEq, Repr

/-- The weekdays that are weekend. -/
abbrev Weekend := Weekday → Bool

namespace Weekend

/-- The weekend of a list of weekdays. -/
def ofDays (days : List Weekday) : Weekend := fun w => days.contains w

/-- The days of a weekend, from Monday on. -/
def days (weekend : Weekend) : List Weekday := Weekday.all.filter weekend

/-- Whether two weekends have the same days. -/
def same (v w : Weekend) : Bool := v.days == w.days

theorem days_ofDays_contains (weekend : Weekend) : ofDays weekend.days = weekend := by
  funext w
  cases h : weekend w <;> simp [ofDays, days, Weekday.mem_all, h]

/-- The least number of days, from 1 to 7, after which a walk from a day in steps of `step` reaches
a day that is not weekend; a weekend of seven days has none. -/
def distance? (weekend : Weekend) (n step : Int) : Option Int :=
  [1, 2, 3, 4, 5, 6, 7].find? fun k => !weekend (Weekday.onDay (n + step * k))

end Weekend

namespace WeekendDefinition

def all : List WeekendDefinition :=
  [.saturdaySunday, .fridaySaturday, .thursdayFriday, .sundayOnly, .fridayOnly, .custom]

def name : WeekendDefinition → String
  | .saturdaySunday => "SATURDAY_SUNDAY"
  | .fridaySaturday => "FRIDAY_SATURDAY"
  | .thursdayFriday => "THURSDAY_FRIDAY"
  | .sundayOnly => "SUNDAY_ONLY"
  | .fridayOnly => "FRIDAY_ONLY"
  | .custom => "CUSTOM"

def text : WeekendDefinition → String
  | .saturdaySunday => "saturday_sunday"
  | .fridaySaturday => "friday_saturday"
  | .thursdayFriday => "thursday_friday"
  | .sundayOnly => "sunday_only"
  | .fridayOnly => "friday_only"
  | .custom => "custom"

def ofName? (s : String) : Option WeekendDefinition :=
  all.find? fun d => d.name == s

def ofText? (s : String) : Option WeekendDefinition :=
  all.find? fun d => d.text == s

def days? : WeekendDefinition → Option (List Weekday)
  | .saturdaySunday => some [.saturday, .sunday]
  | .fridaySaturday => some [.friday, .saturday]
  | .thursdayFriday => some [.thursday, .friday]
  | .sundayOnly => some [.sunday]
  | .fridayOnly => some [.friday]
  | .custom => none

end WeekendDefinition

namespace Moment

/-- The nearest working day in steps of `step`; `definition` names the weekend in a refusal. -/
def stepToWorkingDay (m : Moment) (step : Int) (weekend : Weekend) (definition : String) :
    Except Cause Moment :=
  match weekend.distance? m.dayNumber step with
  | some k => m.shift (step * k)
  | none => .error (.noWorkingDays definition)

/-- The first moment on a working day after this one. -/
def nextWorkingDay (m : Moment) (weekend : Weekend) (definition : String) : Except Cause Moment :=
  m.stepToWorkingDay 1 weekend definition

/-- The last moment on a working day before this one. -/
def previousWorkingDay (m : Moment) (weekend : Weekend) (definition : String) :
    Except Cause Moment :=
  m.stepToWorkingDay (-1) weekend definition

end Moment

end BusinessCalendar
