import BusinessCalendar.Diagnostic.Cause

/-!
# Where a fiscal year starts

A quarter definition comes down to an anchor: the month and the day on which the fiscal year
starts.  Quarters are the three month spans from there, always on the anchor day, which is at
most 28 so that every month has it.

* `Anchor.check` — the anchor of two numbers, or the reason why there is none.
* `QuarterDefinition.anchor?` — the anchor of a built-in definition; a custom one has none.
-/

namespace BusinessCalendar

/-- The last anchor day that every month has. -/
def maxAnchorDay : Int := 28

/-- The month and the day on which a fiscal year starts. -/
structure Anchor where
  month : Int
  day : Int
  month_range : 1 ≤ month ∧ month ≤ 12
  day_range : 1 ≤ day ∧ day ≤ maxAnchorDay
deriving DecidableEq, Repr

namespace Anchor

/-- The anchor of a month and a day, which are checked in that order. -/
def check (month day : Numeral) : Except Cause Anchor :=
  if hm : 1 ≤ month.value ∧ month.value ≤ 12 then
    if hd : 1 ≤ day.value ∧ day.value ≤ maxAnchorDay then
      .ok { month := month.value, day := day.value, month_range := hm, day_range := hd }
    else .error (.anchorDayOutOfRange day maxAnchorDay)
  else .error (.monthOutOfRange "month" month)

/-- The first day of a month as an anchor. -/
def firstOf (month : Int) (h : 1 ≤ month ∧ month ≤ 12) : Anchor :=
  { month, day := 1, month_range := h, day_range := by decide }

end Anchor

/-- How a year is divided into four quarters of three months. -/
inductive QuarterDefinition where
  | calendarYear
  | financialJuly
  | financialApril
  | financialOctober
  | financialFebruary
  /-- The boundaries come from a provider. -/
  | custom
deriving DecidableEq, Repr

namespace QuarterDefinition

def all : List QuarterDefinition :=
  [.calendarYear, .financialJuly, .financialApril, .financialOctober, .financialFebruary, .custom]

def name : QuarterDefinition → String
  | .calendarYear => "CALENDAR_YEAR"
  | .financialJuly => "FINANCIAL_JULY"
  | .financialApril => "FINANCIAL_APRIL"
  | .financialOctober => "FINANCIAL_OCTOBER"
  | .financialFebruary => "FINANCIAL_FEBRUARY"
  | .custom => "CUSTOM"

def text : QuarterDefinition → String
  | .calendarYear => "calendar_year"
  | .financialJuly => "financial_july"
  | .financialApril => "financial_april"
  | .financialOctober => "financial_october"
  | .financialFebruary => "financial_february"
  | .custom => "custom"

def ofName? (s : String) : Option QuarterDefinition :=
  all.find? fun d => d.name == s

def ofText? (s : String) : Option QuarterDefinition :=
  all.find? fun d => d.text == s

def anchor? : QuarterDefinition → Option Anchor
  | .calendarYear => some (Anchor.firstOf 1 (by decide))
  | .financialJuly => some (Anchor.firstOf 7 (by decide))
  | .financialApril => some (Anchor.firstOf 4 (by decide))
  | .financialOctober => some (Anchor.firstOf 10 (by decide))
  | .financialFebruary => some (Anchor.firstOf 2 (by decide))
  | .custom => none

end QuarterDefinition

end BusinessCalendar
