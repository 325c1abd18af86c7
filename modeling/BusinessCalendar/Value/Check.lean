import BusinessCalendar.Value.Literal

/-!
# Checking arguments

Each function takes an argument of any kind, under the name that a complaint gives it, and answers
with a value of the domain.  A wrong type comes before a number out of range.  A yes or a no is
never taken for a number, with the exceptions of `requireIndex` and `requirePaddable`.
-/

namespace BusinessCalendar

namespace Value

/-- An integer, or a constant that stands for one. -/
def requireInt (argument : String) : Value → Outcome Numeral
  | number n => .ok n
  | v => .error (.wrongType argument "int" v.kindName)

def requireYear (argument : String) (v : Value) : Outcome Int := do
  checkYear argument (← v.requireInt argument)

def requireMonth (argument : String) (v : Value) : Outcome Int := do
  checkMonth argument (← v.requireInt argument)

def requireQuarter (argument : String) (v : Value) : Outcome Int := do
  checkQuarter argument (← v.requireInt argument)

/-- A representable day number; out of range it is always reported as `day_number`. -/
def requireDayNumber (argument : String) (v : Value) : Outcome Int := do
  checkDayNumber (← v.requireInt argument)

def requireWeekday (argument : String) (v : Value) : Outcome Weekday :=
  match v with
  | number (.weekday w) => .ok w
  | v => do
    let n ← v.requireInt argument
    match Weekday.ofIndex? n.value with
    | some w => .ok w
    | none => raise (.weekdayOutOfRange argument n)

/-- A date, with or without a time of day. -/
def requireDate (argument : String) : Value → Outcome Moment
  | moment m => .ok m
  | v => .error (.wrongType argument "date" v.kindName)

def requireConvention : Value → Outcome WeekConvention
  | convention c => .ok c
  | v => .error (.wrongType "convention" "WeekConvention" v.kindName)

/-- A number that can stand where nothing but an integer can: unlike elsewhere, a yes or a no is
one.  It has to fit a machine word. -/
def requireIndex (v : Value) : Outcome Int :=
  match v with
  | bool b => .ok (if b then 1 else 0)
  | number n =>
    if -Int.pow 2 31 ≤ n.value ∧ n.value < Int.pow 2 31 then .ok n.value else .error (.tooLarge n.value)
  | v => .error (.notAnIndex v.qualifiedKindName)

/-- A number whose digits can be filled up; here too a yes or a no is one. -/
def requirePaddable (v : Value) : Outcome Unit :=
  match v with
  | bool _ | number _ | moment _ => .ok ()
  | text _ | quarterDefinition _ | weekendDefinition _ | float _ =>
    .error (.notDecimal v.kindName)
  | v => .error (.notFormattable v.kindName)

def requireWeekdays (argument : String) (v : Value) : Outcome (List Weekday) :=
  match v.elements? with
  | some vs => vs.mapM (requireWeekday argument)
  | none => .error (.wrongType argument "an iterable of weekdays" v.kindName)

end Value

end BusinessCalendar
