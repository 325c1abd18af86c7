/-!
# Which week is week 1

A rule is the least number of days that week 1 must have in its year.
-/

namespace BusinessCalendar

/-- The rule that decides which week of a year is week 1. -/
inductive WeekRule where
  /-- Week 1 contains 1 January. -/
  | firstDay
  /-- Week 1 is the first week with at least four days in the year, as in ISO 8601. -/
  | firstFourDayWeek
  /-- Week 1 is the first week that lies entirely in the year. -/
  | firstFullWeek
deriving DecidableEq, Repr, Inhabited

namespace WeekRule

/-- All rules, by their least number of days. -/
def all : List WeekRule := [.firstDay, .firstFourDayWeek, .firstFullWeek]

/-- The least number of days of week 1 that lie in its year. -/
def minDays : WeekRule → Int
  | .firstDay => 1
  | .firstFourDayWeek => 4
  | .firstFullWeek => 7

def name : WeekRule → String
  | .firstDay => "FIRST_DAY"
  | .firstFourDayWeek => "FIRST_FOUR_DAY_WEEK"
  | .firstFullWeek => "FIRST_FULL_WEEK"

/-- The rule with a given least number of days. -/
def ofMinDays? (n : Int) : Option WeekRule :=
  all.find? fun r => r.minDays == n

def ofName? (s : String) : Option WeekRule :=
  all.find? fun r => r.name == s

theorem minDays_bounds (r : WeekRule) : 1 ≤ r.minDays ∧ r.minDays ≤ 7 := by
  cases r <;> decide

end WeekRule

end BusinessCalendar
