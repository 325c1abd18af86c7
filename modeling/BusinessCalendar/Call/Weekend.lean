import BusinessCalendar.Value.Check

/-!
# Calls: weekends and working days

A classification of the weekdays comes from a definition or, for the custom one, from a provider.
Classifying looks at the weekday or the date first; stepping to a working day looks at the
definition and the provider first.
-/

namespace BusinessCalendar.Call

/-- A weekend from a collection of weekdays. -/
def weekendDays (days : Value) : Outcome Weekend := do
  return Weekend.ofDays (← days.requireWeekdays "days")

/-- A weekend from weekdays given one by one.  They are checked by themselves, and what they make is
checked once more as a collection. -/
def weekendDaysOf (days : List Value) : Outcome Weekend := do
  let ws ← days.mapM (Value.requireWeekday "days")
  weekendDays (.list (ws.map .weekday))

/-- Whether a weekday is one of a weekend's days. -/
def weekendDaysContain (weekend : Weekend) (weekday : Value) : Outcome Bool := do
  return weekend (← weekday.requireWeekday "weekday")

/-- Every weekday passes the check, so what a weekend's method says of it is what the weekend says. -/
theorem weekendDaysContain_weekday (weekend : Weekend) (w : Weekday) :
    weekendDaysContain weekend (.weekday w) = .ok (weekend w) := rfl

/-- The weekend that a value provides, if it is a weekend provider.  The method of a weekend made of
days is asked with weekdays only, and gives the weekend itself (`weekendDaysContain_weekday`). -/
def providedWeekend? : Value → Option Weekend
  | .weekendDays w => some w
  | .weekendProvider p _ => some fun w => (p.isWeekend w).truthy
  | _ => none

/-- The weekend of a definition and a provider, on behalf of a function.  Only the custom
definition looks at the provider. -/
def weekendOf (function : String) (definition provider : Value) : Outcome Weekend :=
  match definition with
  | .weekendDefinition d =>
    match d.days? with
    | some days => .ok (Weekend.ofDays days)
    | none =>
      match provider with
      | .null => raise (.providerMissing function "provider")
      | v =>
        match providedWeekend? v with
        | some weekend => .ok weekend
        | none => .error (.notAProvider "WeekendProvider" v.kindName)
  | v => .error (.wrongType "definition" "CalendarWeekendDefinition" v.kindName)

/-- The definition that is used where none is given. -/
def defaultWeekend : Value := .weekendDefinition .saturdaySunday

def isWeekend (weekday : Value) (definition : Value := defaultWeekend)
    (provider : Value := .null) : Outcome Bool := do
  let w ← weekday.requireWeekday "weekday"
  return (← weekendOf "is_weekend" definition provider) w

/-- Whether a date falls on a weekend. -/
def isWeekendDate (value : Value) (definition : Value := defaultWeekend)
    (provider : Value := .null) : Outcome Bool := do
  let m ← value.requireDate "value"
  return (← weekendOf "is_weekend_date" definition provider) m.date.weekday

/-- The nearest working day in steps of `step`, on behalf of a function. -/
def stepToWorkingDay (function : String) (step : Int) (value definition provider : Value) :
    Outcome Moment := do
  let weekend ← weekendOf function definition provider
  let m ← value.requireDate "value"
  m.stepToWorkingDay step weekend (definition.text?.getD "")

/-- The first working day after a date. -/
def nextWorkingDay (value : Value) (definition : Value := defaultWeekend)
    (provider : Value := .null) : Outcome Moment :=
  stepToWorkingDay "next_weekday" 1 value definition provider

/-- The last working day before a date. -/
def previousWorkingDay (value : Value) (definition : Value := defaultWeekend)
    (provider : Value := .null) : Outcome Moment :=
  stepToWorkingDay "previous_weekday" (-1) value definition provider

end BusinessCalendar.Call
