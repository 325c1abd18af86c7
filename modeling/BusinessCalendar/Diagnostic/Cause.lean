import BusinessCalendar.Diagnostic.Basic

/-!
# Causes of failure

One constructor per thing that can go wrong in calendar arithmetic, with the data that describes
the case.  `CauseOf.diagnostic` is the only place where such a failure is put into words.

The wording does not depend on what the data is made of: `CauseOf ν τ` has quantities of type `ν`
and texts of type `τ`.  Calendar arithmetic fails with a `Cause`, which has integers as they were
given, and plain texts.  Its report can be worded as far as the integers can be written out, which is
`Cause.Writable`.
-/

namespace BusinessCalendar

/-- Why a calendar operation has no answer. -/
inductive CauseOf (ν τ : Type) where
  /-- A year outside 1 to 9999, under the name of the argument that carried it. -/
  | yearOutOfRange (argument : τ) (received : ν)
  /-- A month outside 1 to 12. -/
  | monthOutOfRange (argument : τ) (received : ν)
  /-- A day that the month does not have; `length` is how many it has. -/
  | dayOutOfRange (year month received length : ν)
  /-- A day number outside the representable days. -/
  | dayNumberOutOfRange (received minimum maximum : ν)
  /-- A weekday number outside 0 to 6. -/
  | weekdayOutOfRange (argument : τ) (received : ν)
  /-- A quarter outside 1 to 4. -/
  | quarterOutOfRange (argument : τ) (received : ν)
  /-- A week that an ISO year does not have; `weeks` is how many it has. -/
  | isoWeekOutOfRange (year received weeks : ν)
  /-- A weekday does not occur that often in a period; `available` is how often it does. -/
  | ordinalNotInPeriod (received : ν) (weekday period : τ) (available : ν)
  /-- A date outside the fiscal year `start..stop`. -/
  | dateOutsideFiscalYear (date start stop : τ)
  /-- A fiscal year that has neither 52 nor 53 weeks. -/
  | fiscalWeeksOutOfRange (received : ν)
  /-- A week number that does not occur in a year under a convention. -/
  | weekNotInYear (year received : ν) (convention : τ)
  /-- An anchor day outside 1 to `maximum`. -/
  | anchorDayOutOfRange (received maximum : ν)
  /-- A provider answered outside its contract; `received` shows what it returned. -/
  | providerResultOutOfRange (method : τ) (received : String) (minimum maximum : ν)
  /-- A weekend that takes up the whole week. -/
  | noWorkingDays (definition : τ)
  /-- Moving a date by some days leaves the representable days. -/
  | resultOutOfRange (date : τ) (days : ν)
  /-- A custom definition was given to a function that needs a built-in one. -/
  | providerRequired (function : τ)
  /-- A provider is needed and none was given. -/
  | providerMissing (function argument : τ)
  /-- A locale code that leads to no locale data; `literal` shows the code as it was given. -/
  | localeUnknown (code : τ) (literal : String) (reason : τ)
deriving DecidableEq, Repr

/-- A cause that calendar arithmetic fails with. -/
abbrev Cause := CauseOf Numeral String

namespace CauseOf

variable {ν τ : Type}

/-- The code under which a cause is reported. -/
def code : CauseOf ν τ → DiagnosticCode
  | yearOutOfRange .. => .yearOutOfRange
  | monthOutOfRange .. => .monthOutOfRange
  | dayOutOfRange .. => .dayOutOfRange
  | dayNumberOutOfRange .. => .dayNumberOutOfRange
  | weekdayOutOfRange .. => .weekdayOutOfRange
  | quarterOutOfRange .. => .quarterOutOfRange
  | isoWeekOutOfRange .. => .isoWeekOutOfRange
  | ordinalNotInPeriod .. => .ordinalNotInPeriod
  | dateOutsideFiscalYear .. => .dateOutsideFiscalYear
  | fiscalWeeksOutOfRange .. => .fiscalWeeksOutOfRange
  | weekNotInYear .. => .weekNotInYear
  | anchorDayOutOfRange .. => .anchorDayOutOfRange
  | providerResultOutOfRange .. => .providerResultOutOfRange
  | noWorkingDays .. => .noWorkingDays
  | resultOutOfRange .. => .resultOutOfRange
  | providerRequired .. => .providerRequired
  | providerMissing .. => .providerMissing
  | localeUnknown .. => .localeUnknown

/-- The quantities that the report of a cause puts into words. -/
def quantities : CauseOf ν τ → List ν
  | yearOutOfRange _ n | monthOutOfRange _ n | weekdayOutOfRange _ n | quarterOutOfRange _ n
  | fiscalWeeksOutOfRange n | resultOutOfRange _ n => [n]
  | dayOutOfRange year month received length => [received, year, month, length]
  | dayNumberOutOfRange received minimum maximum => [received, minimum, maximum]
  | isoWeekOutOfRange year received weeks => [year, weeks, received]
  | ordinalNotInPeriod received _ _ available => [received, available]
  | weekNotInYear year received _ => [received, year]
  | anchorDayOutOfRange received maximum => [maximum, received]
  | providerResultOutOfRange _ _ minimum maximum => [minimum, maximum]
  | dateOutsideFiscalYear .. | noWorkingDays .. | providerRequired .. | providerMissing ..
  | localeUnknown .. => []

/-- A 29 February. -/
def leapDay [Quantity ν] (month day : ν) : Bool :=
  Quantity.integer? month == some 2 && Quantity.integer? day == some 29

open Shown (text) in
open Particular (ofText quoting) in
def diagnostic [Quantity ν] [Particular τ] : CauseOf ν τ → Diagnostic τ
  | yearOutOfRange argument received =>
    { code := .yearOutOfRange
      message := s!"{text argument} must be 1-9999, got {text received}"
      hint := some "Only proleptic Gregorian years 1 through 9999 are supported"
      argument := some argument
      received := some (quoting received) }
  | monthOutOfRange argument received =>
    { code := .monthOutOfRange
      message := s!"{text argument} must be 1-12, got {text received}"
      argument := some argument
      received := some (quoting received) }
  | dayOutOfRange year month received length =>
    { code := .dayOutOfRange
      message := s!"Day {text received} is out of range for {monthText year month} (1-{text length})"
      hint :=
        if leapDay month received then some "February has 29 days only in leap years" else none
      argument := some (ofText "day")
      received := some (quoting received) }
  | dayNumberOutOfRange received minimum maximum =>
    { code := .dayNumberOutOfRange
      message := s!"Day number {text received} is outside {text minimum}-{text maximum}"
      hint := some "Day numbers count days since 0001-01-01 and end at 9999-12-31"
      argument := some (ofText "day_number")
      received := some (quoting received) }
  | weekdayOutOfRange argument received =>
    { code := .weekdayOutOfRange
      message := s!"{text argument} must be 0-6 (Monday=0), got {text received}"
      hint := some "Use calendar.Day members such as calendar.MONDAY"
      argument := some argument
      received := some (quoting received) }
  | quarterOutOfRange argument received =>
    { code := .quarterOutOfRange
      message := s!"{text argument} must be 1-4, got {text received}"
      argument := some argument
      received := some (quoting received) }
  | isoWeekOutOfRange year received weeks =>
    { code := .isoWeekOutOfRange
      message := s!"ISO year {text year} has weeks 1-{text weeks}, got {text received}"
      hint := some "Check get_iso_weeks_in_year() before building week inputs"
      helpUrl := some "https://en.wikipedia.org/wiki/ISO_week_date"
      argument := some (ofText "iso_week")
      received := some (quoting received) }
  | ordinalNotInPeriod received weekday period available =>
    { code := .ordinalNotInPeriod
      message :=
        s!"Occurrence {text received} of {text weekday} does not exist in {text period} " ++
          s!"({text available} available)"
      hint := some "Use WeekOfMonthOrdinal.LAST for the final occurrence"
      argument := some (ofText "ordinal")
      received := some (quoting received) }
  | dateOutsideFiscalYear date start stop =>
    { code := .dateOutsideFiscalYear
      message := s!"Date {text date} is outside the fiscal year {text start}..{text stop}"
      hint := some "Construct a provider anchored at that year's start"
      argument := some (ofText "value")
      received := some date }
  | fiscalWeeksOutOfRange received =>
    { code := .fiscalWeeksOutOfRange
      message := s!"A 5-4-4 fiscal year has 52 or 53 weeks, got {text received}"
      hint := some "Omit weeks to derive the length from nominal_start"
      argument := some (ofText "weeks")
      received := some (quoting received) }
  | weekNotInYear year received convention =>
    { code := .weekNotInYear
      message := s!"Week {text received} is invalid for the year {text year} under {text convention}"
      hint := some "week_of_year() of the returned date must give the requested week"
      argument := some (ofText "week")
      received := some (quoting received) }
  | anchorDayOutOfRange received maximum =>
    { code := .anchorDayOutOfRange
      message := s!"Anchor day must be 1-{text maximum}, got {text received}"
      hint := some "Anchor days beyond the 28th do not exist in every month"
      argument := some (ofText "day")
      received := some (quoting received) }
  | providerResultOutOfRange method received minimum maximum =>
    { code := .providerResultOutOfRange
      message :=
        s!"Provider {text method}() returned {received}, expected {text minimum}-{text maximum}"
      function := some method
      received := some (ofText received) }
  | noWorkingDays definition =>
    { code := .noWorkingDays
      message := s!"Weekend definition {text definition} leaves no working days"
      hint := some "A weekend provider must report at least one weekday as non-weekend" }
  | resultOutOfRange date days =>
    { code := .resultOutOfRange
      message := s!"Moving {text date} by {text days} day(s) leaves the range 0001-01-01..9999-12-31"
      received := some date }
  | providerRequired function =>
    { code := .providerRequired
      message :=
        s!"{text function}() cannot resolve QuarterDefinition.CUSTOM: provider required"
      hint := some "Pass a QuarterProvider to the matching *_of_provider() function"
      function := some function
      argument := some (ofText "definition")
      received := some (ofText "QuarterDefinition.CUSTOM") }
  | providerMissing function argument =>
    { code := .providerMissing
      message := s!"{text function}() requires {text argument}, got None"
      function := some function
      argument := some argument
      received := some (ofText "None") }
  | localeUnknown code quoted reason =>
    { code := .localeUnknown
      message := s!"Unknown locale identifier '{text code}': {text reason}"
      hint := some "Use a BCP-47 or POSIX locale code such as 'en-US' or 'de_DE'"
      argument := some (ofText "locale_code")
      received := some (ofText quoted) }

/-- A cause is reported under its own code. -/
theorem diagnostic_code [Quantity ν] [Particular τ] (c : CauseOf ν τ) :
    c.diagnostic.code = c.code := by
  cases c <;> rfl

end CauseOf

/-- A cause whose report can be put into words. -/
def Cause.Writable (c : Cause) : Prop := ∀ n ∈ c.quantities, n.Writable

instance : DecidablePred Cause.Writable := fun c =>
  inferInstanceAs (Decidable (∀ n ∈ c.quantities, n.Writable))

end BusinessCalendar
