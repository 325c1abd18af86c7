import BusinessCalendar.Call.Navigation
import BusinessCalendar.Value.Compare

/-!
# Calls: quarters

A definition is looked at before any other argument, and the custom one is refused there: it has
no boundaries of its own.  The refusal names the function that looks at the definition, which for
the first and the last occurrence in a quarter is the n-th.
-/

namespace BusinessCalendar.Call

/-- An anchor from a month and a day. -/
def anchor (month : Value) (day : Value := .int 1) : Outcome Value := do
  let m ← month.requireInt "month"
  let _ ← checkMonth "month" m
  let d ← day.requireInt "day"
  let a ← Anchor.check m d
  return .anchor a m d

/-- The anchor of a definition, on behalf of a function. -/
def anchorFor (function : String) : Value → Outcome Anchor
  | .anchor a _ _ => .ok a
  | .quarterDefinition d =>
    match d.anchor? with
    | some a => .ok a
    | none => raise (.providerRequired function)
  | v => .error (.wrongType "definition" "QuarterDefinition or QuarterAnchor" v.kindName)

/-- The anchor of a definition; an anchor is its own. -/
def anchorOf (definition : Value) (function : String := "quarter_anchor") : Outcome Value := do
  let a ← anchorFor function definition
  match definition with
  | .anchor .. => return definition
  | _ => return .ofAnchor a

/-- A quarter from its parts.  Only the index and the order of the two bounds are checked; nothing
else has to be what it is meant to be. -/
def quarter (year index start stop : Value) : Outcome Value := do
  let _ ← index.requireQuarter "quarter"
  if ← stop.before start then .error (.reversedQuarter (← stop.shown) (← start.shown))
  return .quarter year index start stop

/-- The day number of a bound of a quarter. -/
def boundDay (bound : Value) : Outcome Int := do
  return (← bound.requireDate "value").dayNumber

/-- The length of a quarter in days, whatever the clocks of its bounds say. -/
def quarterDays (start stop : Value) : Outcome Int := do
  let last ← boundDay stop
  let first ← boundDay start
  return last - first + 1

/-- Whether a date falls on a day of a quarter; nothing else does. -/
def quarterContains (start stop value : Value) : Outcome Bool :=
  match value with
  | .moment m => do
    let first ← boundDay start
    if m.dayNumber < first then return false
    return decide (m.dayNumber ≤ (← boundDay stop))
  | _ => .ok false

def resolveQuarter (value definition : Value) : Outcome Quarter := do
  let a ← anchorFor "resolve_quarter" definition
  let m ← value.requireDate "value"
  Quarter.resolve m.date a

/-- The index of the quarter that holds a date. -/
def quarterOf (value definition : Value) : Outcome Int := do
  let a ← anchorFor "quarter_of" definition
  let m ← value.requireDate "value"
  return (a.locate m.date.toYearMonthDay).2

def quarterStart (year quarter definition : Value) : Outcome Date := do
  let a ← anchorFor "quarter_start" definition
  let y ← year.requireYear "year"
  let q ← quarter.requireQuarter "quarter"
  Date.quarterStart y q a

def quarterEnd (year quarter definition : Value) : Outcome Date := do
  let a ← anchorFor "quarter_end" definition
  let y ← year.requireYear "year"
  let q ← quarter.requireQuarter "quarter"
  Date.quarterEnd y q a

/-- The month in which a quarter starts. -/
def startMonthOfQuarter (quarter definition : Value) : Outcome Int := do
  let a ← anchorFor "start_month_of_quarter" definition
  let q ← quarter.requireQuarter "quarter"
  return a.startMonth q

/-- The four quarters of a fiscal year, under the year as it was given. -/
def quartersOfYear (year definition : Value) : Outcome Value := do
  let a ← anchorFor "quarters_of_year" definition
  let y ← year.requireYear "year"
  let qs ← Quarter.ofYear y a
  return .tuple .plain (qs.map fun q => .quarter year (.int q.index) (.date q.start) (.date q.stop))

/-- The n-th date on a weekday in a quarter. -/
def nthInQuarter (year quarter weekday occurrence : Value)
    (definition : Value := .quarterDefinition .calendarYear) : Outcome Date := do
  let a ← anchorFor "nth_occurrence_in_quarter" definition
  let y ← year.requireYear "year"
  let q ← quarter.requireQuarter "quarter"
  let span ← Quarter.ofIndex y q a
  let w ← weekday.requireWeekday "weekday"
  let k ← occurrence.requireInt "occurrence"
  span.nthOccurrence w k

/-- The first date on a weekday in a quarter. -/
def firstInQuarter (year quarter weekday : Value)
    (definition : Value := .quarterDefinition .calendarYear) : Outcome Date :=
  nthInQuarter year quarter weekday (.int 1) definition

/-- The last date on a weekday in a quarter. -/
def lastInQuarter (year quarter weekday : Value)
    (definition : Value := .quarterDefinition .calendarYear) : Outcome Date :=
  nthInQuarter year quarter weekday (.int (-1)) definition

end BusinessCalendar.Call
