import BusinessCalendar.Call.FiscalYear
import BusinessCalendar.Call.Quarter

/-!
# Calls: quarter providers

A provider stands in for a custom definition.  It is looked at before the other argument; what it
answers is checked and never trusted, and its own failures pass through.

* `quarterProvider?` — the provider that a value is, if it has all four methods.
* `QuarterMethods.builtin` — a method that delegates to a definition.
-/

namespace BusinessCalendar

/-- All four methods of a quarter provider. -/
structure QuarterProvider where
  quarter : Moment → Outcome Value
  quarterStart : Moment → Outcome Value
  quarterStop : Moment → Outcome Value
  startMonth : Numeral → Outcome Value

namespace QuarterProvider

def ofFiscalYear (y : FiscalYear) : QuarterProvider where
  quarter m := do return .int (← Call.fiscalQuarter y (.moment m))
  quarterStart m := do return .date (← Call.fiscalQuarterStart y (.moment m))
  quarterStop m := do return .date (← Call.fiscalQuarterStop y (.moment m))
  startMonth n := do return .int (← Call.fiscalStartMonth y (.number n))

def ofDefinition (definition : Value) : QuarterProvider where
  quarter m := do return .int (← Call.quarterOf (.moment m) definition)
  quarterStart m := do return .date (← Call.resolveQuarter (.moment m) definition).start
  quarterStop m := do return .date (← Call.resolveQuarter (.moment m) definition).stop
  startMonth n := do return .int (← Call.startMonthOfQuarter (.number n) definition)

end QuarterProvider

/-- The provider that some methods make, if none of the four is missing. -/
def QuarterMethods.provider? (p : QuarterMethods Value) : Option QuarterProvider := do
  return {
    quarter := ← p.quarter?
    quarterStart := ← p.quarterStart?
    quarterStop := ← p.quarterStop?
    startMonth := ← p.startMonth? }

/-- The quarter provider that a value is. -/
def Value.asQuarterProvider? : Value → Option QuarterProvider
  | .fiscalYear y => some (.ofFiscalYear y)
  | .quarterProvider p _ => p.provider?
  | _ => none

namespace Call

/-- A provider, on behalf of a function. -/
def requireProvider (function : String) (v : Value) : Outcome QuarterProvider :=
  match v with
  | .null => raise (.providerMissing function "provider")
  | v =>
    match v.asQuarterProvider? with
    | some p => .ok p
    | none => .error (.notAProvider "QuarterProvider" v.kindName)

/-- A number in range that a provider answered with. -/
def checkedNumber (method : String) (minimum maximum : Int) (answer : Value) : Outcome Numeral :=
  let refusal : Outcome Numeral := do
    raise (.providerResultOutOfRange method (← answer.literal) minimum maximum)
  match answer with
  | .number n => if minimum ≤ n.value ∧ n.value ≤ maximum then .ok n else refusal
  | _ => refusal

/-- A date that a provider answered with. -/
def checkedDate (method : String) (answer : Value) : Outcome Moment :=
  match answer with
  | .moment m => .ok m
  | v => .error (.notADate method v.kindName)

/-- The quarter of a date, as a provider has it. -/
def quarterOfProvider (value provider : Value) : Outcome Numeral := do
  let p ← requireProvider "quarter_of_provider" provider
  let m ← value.requireDate "value"
  checkedNumber "get_quarter" 1 4 (← p.quarter m)

/-- The first day of a date's quarter, as a provider has it. -/
def quarterStartOfProvider (value provider : Value) : Outcome Moment := do
  let p ← requireProvider "quarter_start_of_provider" provider
  let m ← value.requireDate "value"
  checkedDate "get_quarter_start" (← p.quarterStart m)

/-- The last day of a date's quarter, as a provider has it. -/
def quarterEndOfProvider (value provider : Value) : Outcome Moment := do
  let p ← requireProvider "quarter_end_of_provider" provider
  let m ← value.requireDate "value"
  checkedDate "get_quarter_end" (← p.quarterStop m)

/-- The month in which a quarter starts, as a provider has it. -/
def startMonthOfProvider (quarter provider : Value) : Outcome Numeral := do
  let p ← requireProvider "start_month_of_provider" provider
  let n ← quarter.requireInt "quarter"
  let _ ← checkQuarter "quarter" n
  checkedNumber "get_start_month_from_quarter" 1 12 (← p.startMonth n)

end Call

end BusinessCalendar
