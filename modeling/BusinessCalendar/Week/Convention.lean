import BusinessCalendar.Week.Rule
import BusinessCalendar.Weekday

/-!
# Week conventions

How a culture numbers the weeks of a year: the weekday on which weeks start, and the rule for
week 1.  ISO 8601 starts weeks on Monday and asks for four days.
-/

namespace BusinessCalendar

/-- The weekday on which weeks start and the rule that decides which week is week 1. -/
structure WeekConvention where
  firstWeekday : Weekday
  rule : WeekRule
deriving DecidableEq, Repr

namespace WeekConvention

def iso : WeekConvention := { firstWeekday := .monday, rule := .firstFourDayWeek }

/-- The convention as `SUNDAY/FIRST_DAY`. -/
def text (c : WeekConvention) : String := c.firstWeekday.name ++ "/" ++ c.rule.name

end WeekConvention

end BusinessCalendar
