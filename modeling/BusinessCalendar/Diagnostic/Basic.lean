import BusinessCalendar.Diagnostic.Shown

/-!
# Diagnostics

A diagnostic is a coded message with optional particulars, which are texts or things of another
kind that can stand for one.  `Diagnostic.lines` is its form as a list of lines, a headline and one
line per particular that is listed; `Diagnostic.render` joins them.  A particular that is absent
and one that is empty look the same.
-/

namespace BusinessCalendar

/-- The kind of a diagnostic. -/
inductive DiagnosticCode where
  | yearOutOfRange
  | monthOutOfRange
  | dayOutOfRange
  | dayNumberOutOfRange
  | weekdayOutOfRange
  | quarterOutOfRange
  | isoWeekOutOfRange
  | ordinalNotInPeriod
  | dateOutsideFiscalYear
  | anchorDayOutOfRange
  | providerResultOutOfRange
  | noWorkingDays
  | resultOutOfRange
  | fiscalWeeksOutOfRange
  | weekNotInYear
  | providerRequired
  | providerMissing
  | localeUnknown
deriving DecidableEq, Repr

namespace DiagnosticCode

def all : List DiagnosticCode :=
  [.yearOutOfRange, .monthOutOfRange, .dayOutOfRange, .dayNumberOutOfRange, .weekdayOutOfRange,
    .quarterOutOfRange, .isoWeekOutOfRange, .ordinalNotInPeriod, .dateOutsideFiscalYear,
    .anchorDayOutOfRange, .providerResultOutOfRange, .noWorkingDays, .resultOutOfRange,
    .fiscalWeeksOutOfRange, .weekNotInYear, .providerRequired, .providerMissing, .localeUnknown]

/-- Range errors are numbered from 1001, usage errors from 2001, locale errors from 3001. -/
def number : DiagnosticCode → Nat
  | .yearOutOfRange => 1001
  | .monthOutOfRange => 1002
  | .dayOutOfRange => 1003
  | .dayNumberOutOfRange => 1004
  | .weekdayOutOfRange => 1005
  | .quarterOutOfRange => 1006
  | .isoWeekOutOfRange => 1007
  | .ordinalNotInPeriod => 1008
  | .dateOutsideFiscalYear => 1009
  | .anchorDayOutOfRange => 1010
  | .providerResultOutOfRange => 1011
  | .noWorkingDays => 1012
  | .resultOutOfRange => 1013
  | .fiscalWeeksOutOfRange => 1014
  | .weekNotInYear => 1015
  | .providerRequired => 2001
  | .providerMissing => 2002
  | .localeUnknown => 3001

def name : DiagnosticCode → String
  | .yearOutOfRange => "YEAR_OUT_OF_RANGE"
  | .monthOutOfRange => "MONTH_OUT_OF_RANGE"
  | .dayOutOfRange => "DAY_OUT_OF_RANGE"
  | .dayNumberOutOfRange => "DAY_NUMBER_OUT_OF_RANGE"
  | .weekdayOutOfRange => "WEEKDAY_OUT_OF_RANGE"
  | .quarterOutOfRange => "QUARTER_OUT_OF_RANGE"
  | .isoWeekOutOfRange => "ISO_WEEK_OUT_OF_RANGE"
  | .ordinalNotInPeriod => "ORDINAL_NOT_IN_PERIOD"
  | .dateOutsideFiscalYear => "DATE_OUTSIDE_FISCAL_YEAR"
  | .anchorDayOutOfRange => "ANCHOR_DAY_OUT_OF_RANGE"
  | .providerResultOutOfRange => "PROVIDER_RESULT_OUT_OF_RANGE"
  | .noWorkingDays => "NO_WORKING_DAYS"
  | .resultOutOfRange => "RESULT_OUT_OF_RANGE"
  | .fiscalWeeksOutOfRange => "FISCAL_WEEKS_OUT_OF_RANGE"
  | .weekNotInYear => "WEEK_NOT_IN_YEAR"
  | .providerRequired => "PROVIDER_REQUIRED"
  | .providerMissing => "PROVIDER_MISSING"
  | .localeUnknown => "LOCALE_UNKNOWN"

def ofName? (s : String) : Option DiagnosticCode :=
  all.find? fun c => c.name == s

end DiagnosticCode

/-- A coded message with optional particulars; `severity` is the first word of its headline. -/
structure Diagnostic (τ : Type) where
  code : DiagnosticCode
  message : String
  hint : Option String := none
  helpUrl : Option String := none
  function : Option τ := none
  argument : Option τ := none
  received : Option τ := none
  severity : String := "error"
deriving DecidableEq, Repr

namespace Diagnostic

variable {τ : Type}

/-- A diagnostic with other particulars in place of its own. -/
def mapM {m : Type → Type} [Monad m] {σ : Type} (f : τ → m σ) (d : Diagnostic τ) :
    m (Diagnostic σ) := do
  return {
    code := d.code
    message := d.message
    hint := d.hint
    helpUrl := d.helpUrl
    function := ← d.function.mapM f
    argument := ← d.argument.mapM f
    received := ← d.received.mapM f
    severity := d.severity }

/-- The same where the others are there at once. -/
def map {σ : Type} (f : τ → σ) (d : Diagnostic τ) : Diagnostic σ := Id.run (d.mapM f)

/-- The line of a particular, if there is anything to list. -/
def line [Particular τ] (label : String) (particular : Option τ) : List String :=
  match particular with
  | none => []
  | some t => if Particular.listed t then ["  = " ++ label ++ Shown.text t] else []

def headline (d : Diagnostic τ) : String :=
  d.severity ++ "[" ++ d.code.name ++ "]: " ++ d.message

/-- The headline and the particulars, in a fixed order. -/
def lines [Particular τ] (d : Diagnostic τ) : List String :=
  d.headline ::
    (line "function: " d.function ++ line "argument: " d.argument ++
      line "received: " d.received ++ line "help: " d.hint ++ line "note: see " d.helpUrl)

def render [Particular τ] (d : Diagnostic τ) : String :=
  "\n".intercalate d.lines

end Diagnostic

end BusinessCalendar
