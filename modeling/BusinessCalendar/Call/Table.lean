import BusinessCalendar.Call.Provider
import BusinessCalendar.Locale.Cache

/-!
# Tables

The enumerations with their members, the limits and cycle lengths by name, and the causes that can
be put into words by name.
-/

namespace BusinessCalendar

/-! ## Enumerations -/

/-- The enumerations whose members are values. -/
inductive Enumeration where
  | weekday
  | quarterDefinition
  | weekendDefinition
  | monthOrdinal
  | weekRule
deriving DecidableEq, Repr

/-- The name of a member, where a value is one. -/
def Value.memberName? : Value → Option String
  | .number (.weekday w) => some w.name
  | .number (.ordinal o) => some o.name
  | .number (.rule r) => some r.name
  | .quarterDefinition d => some d.name
  | .weekendDefinition d => some d.name
  | _ => none

/-- What a member stands for: a number or a text. -/
def Value.memberValue? : Value → Option Value
  | .number (.plain _) => none
  | .number n => some (.int n.value)
  | .quarterDefinition d => some (.text d.text)
  | .weekendDefinition d => some (.text d.text)
  | _ => none

def Value.memberText? : Value → Option String
  | .number (.plain _) => none
  | .number n => some n.text
  | .quarterDefinition d => some d.text
  | .weekendDefinition d => some d.text
  | _ => none

namespace Enumeration

/-- The name that a complaint gives to an enumeration. -/
def name : Enumeration → String
  | .weekday => "Day"
  | .quarterDefinition => "QuarterDefinition"
  | .weekendDefinition => "CalendarWeekendDefinition"
  | .monthOrdinal => "WeekOfMonthOrdinal"
  | .weekRule => "WeekRule"

def members : Enumeration → List Value
  | .weekday => Weekday.all.map .weekday
  | .quarterDefinition => QuarterDefinition.all.map .quarterDefinition
  | .weekendDefinition => WeekendDefinition.all.map .weekendDefinition
  | .monthOrdinal => MonthOrdinal.all.map fun o => .number (.ordinal o)
  | .weekRule => WeekRule.all.map fun r => .number (.rule r)

/-- The member that a value is equal to. -/
def lookup (e : Enumeration) (v : Value) : Outcome Value :=
  match e.members.find? v.same with
  | some member => .ok member
  | none => do .error (.notAMember (← v.literal) e.name)

end Enumeration

/-! ## Limits and lengths -/

/-- The limits of the calendar, the lengths of its cycles and periods, and the locale settings. -/
def constants : List (String × Value) :=
  [("MIN_YEAR", .int minYear),
    ("MAX_YEAR", .int maxYear),
    ("MIN_DAY_NUMBER", .int minDay),
    ("MAX_DAY_NUMBER", .int maxDay),
    ("DAYS_PER_YEAR", .int 365),
    ("DAYS_PER_4_YEARS", .int 1461),
    ("DAYS_PER_100_YEARS", .int 36524),
    ("DAYS_PER_400_YEARS", .int 146097),
    ("DAYS_PER_WEEK", .int 7),
    ("MONTHS_PER_YEAR", .int 12),
    ("MONTHS_PER_QUARTER", .int 3),
    ("QUARTERS_PER_YEAR", .int 4),
    ("WEEKS_PER_QUARTER", .int 13),
    ("WEEKS_PER_FISCAL_YEAR", .int 52),
    ("DAYS_PER_FISCAL_YEAR", .int 364),
    ("MAX_ANCHOR_DAY", .int maxAnchorDay),
    ("DEFAULT_LOCALE", .text defaultLocale),
    ("MAX_LOCALE_CACHE_SIZE", .int localeCacheCapacity)]

/-- The days of each built-in weekend, from Monday on. -/
def weekendTable : List (WeekendDefinition × List Weekday) :=
  WeekendDefinition.all.filterMap fun d => d.days?.map fun days => (d, (Weekend.ofDays days).days)

/-! ## Diagnostics and causes by name -/

/-- A diagnostic as a text, once its particulars are put into words. -/
def Value.rendering : Value → Outcome String
  | .diagnostic d => do
    let worded : Diagnostic WordedValue ← liftM (d.mapM Value.worded)
    return worded.render
  | v => .error (.missingPart v.qualifiedKindName "severity")

/-- The cause of a name with its particulars, which can be anything that can be put into words.  An
argument name, where a cause has one, is the usual one unless another is given.  Only the digits of a
year and of a month have to be digits. -/
def CauseOf.named? (name : String) (particulars : List WordedValue) (argument : Option WordedValue) :
    Option (Outcome (CauseOf WordedValue WordedValue)) :=
  let argumentOr (usual : String) : WordedValue := argument.getD (.ofText usual)
  match name, particulars with
  | "year_out_of_range", [n] => some (.ok (.yearOutOfRange (argumentOr "year") n))
  | "month_out_of_range", [n] => some (.ok (.monthOutOfRange (argumentOr "month") n))
  | "day_out_of_range", [y, m, d, length] => some do
    y.value.requirePaddable
    m.value.requirePaddable
    return .dayOutOfRange y m d length
  | "day_number_out_of_range", [n, low, high] => some (.ok (.dayNumberOutOfRange n low high))
  | "weekday_out_of_range", [n] => some (.ok (.weekdayOutOfRange (argumentOr "weekday") n))
  | "quarter_out_of_range", [n] => some (.ok (.quarterOutOfRange (argumentOr "quarter") n))
  | "iso_week_out_of_range", [y, w, weeks] => some (.ok (.isoWeekOutOfRange y w weeks))
  | "ordinal_not_in_period", [n, weekday, period, available] =>
    some (.ok (.ordinalNotInPeriod n weekday period available))
  | "date_outside_fiscal_year", [date, start, stop] =>
    some (.ok (.dateOutsideFiscalYear date start stop))
  | "fiscal_weeks_out_of_range", [n] => some (.ok (.fiscalWeeksOutOfRange n))
  | "week_not_in_year", [y, w, convention] => some (.ok (.weekNotInYear y w convention))
  | "anchor_day_out_of_range", [n, high] => some (.ok (.anchorDayOutOfRange n high))
  | "provider_result_out_of_range", [method, v, low, high] =>
    some (.ok (.providerResultOutOfRange method v.literal low high))
  | "no_working_days", [definition] => some (.ok (.noWorkingDays definition))
  | "result_out_of_range", [date, days] => some (.ok (.resultOutOfRange date days))
  | "provider_required", [function] => some (.ok (.providerRequired function))
  | "provider_missing", [function] => some (.ok (.providerMissing function (argumentOr "provider")))
  | "provider_missing", [function, argument] => some (.ok (.providerMissing function argument))
  | "locale_unknown", [code, reason] => some (.ok (.localeUnknown code code.literal reason))
  | _, _ => none

end BusinessCalendar
