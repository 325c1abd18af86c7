import BusinessCalendar.Value.Check

/-!
# Calls: fiscal years of whole weeks

A fiscal year is made from its dates and its first weekday, which are checked first; then the
start is aligned; only then is a length that was given looked at.
-/

namespace BusinessCalendar.Call

/-- The dates and the first weekday of a fiscal year; a nominal date left out is the start. -/
def fiscalYearParts (start firstWeekday nominalStart : Value) :
    Outcome (Date × Date × Weekday) := do
  let s ← start.requireDate "fiscal_year_start"
  let n ←
    match nominalStart with
    | .null => pure s
    | v => v.requireDate "nominal_start"
  let w ← firstWeekday.requireWeekday "first_weekday"
  return (s.date, n.date, w)

/-- Whether a fiscal year has 53 weeks, by the length given or else by its nominal date. -/
def fiscalYearLong (weeks : Value) (nominal : Date) (w : Weekday) (aligned : Date) :
    Outcome Bool :=
  match weeks with
  | .null => liftCause (FiscalYear.derivedLong aligned nominal w)
  | v => do FiscalYear.checkLong (← v.requireInt "weeks")

def fiscalYear (start : Value) (firstWeekday : Value := .weekday .sunday)
    (weeks : Value := .null) (nominalStart : Value := .null) : Logged FiscalYear :=
  match fiscalYearParts start firstWeekday nominalStart with
  | .error f => .silent (.error f)
  | .ok (s, nominal, w) => FiscalYear.build s nominal w (fiscalYearLong weeks nominal w)

/-- The week of a date in a fiscal year. -/
def fiscalWeek (y : FiscalYear) (value : Value) : Outcome Int := do
  y.weekOf (← value.requireDate "value").date

/-- The month of a date in a fiscal year. -/
def fiscalMonth (y : FiscalYear) (value : Value) : Outcome Int := do
  y.monthOf (← value.requireDate "value").date

/-- The quarter of a date in a fiscal year. -/
def fiscalQuarter (y : FiscalYear) (value : Value) : Outcome Int := do
  y.quarterOf (← value.requireDate "value").date

/-- The first day of the quarter of a date in a fiscal year. -/
def fiscalQuarterStart (y : FiscalYear) (value : Value) : Outcome Date := do
  y.quarterStart (← value.requireDate "value").date

/-- The last day of the quarter of a date in a fiscal year. -/
def fiscalQuarterStop (y : FiscalYear) (value : Value) : Outcome Date := do
  y.quarterStop (← value.requireDate "value").date

/-- The calendar month in which a quarter of a fiscal year starts. -/
def fiscalStartMonth (y : FiscalYear) (quarter : Value) : Outcome Int := do
  y.startMonth (← quarter.requireQuarter "quarter")

end BusinessCalendar.Call
