import BusinessCalendar.Notice

/-!
# Locales

A locale publishes the weekday on which weeks start and the least number of days of week 1.
Where the data comes from is a parameter: a `LocaleData` answers for an identifier with a locale
or with the reason why it has none.  What it publishes is not checked here and is of any type.

* `LocaleCode.identifier` — hyphens become underscores, the form that locale data is asked in.
* `LocaleRefusal` — why an identifier has no locale.
-/

namespace BusinessCalendar

/-- The locale used in place of one that cannot be had. -/
def defaultLocale : String := "en_US"

/-- A locale code as it was given: a text, or a definition that is one.  The two are kept apart
even where their texts agree. -/
structure LocaleCode where
  text : String
  /-- Whether the code is a definition. -/
  isDefinition : Bool := false
deriving DecidableEq, Repr

/-- The form in which locale data is asked: `en_US` for `en-US`. -/
def LocaleCode.identifier (code : LocaleCode) : String :=
  code.text.map fun c => if c = '-' then '_' else c

/-- What locale data publishes about weeks. -/
structure Locale (α : Type) where
  name : String
  firstWeekday : α
  minDays : α
deriving DecidableEq, Repr

/-- Why locale data has no locale for an identifier. -/
inductive LocaleRefusal where
  | unknown (reason : String)
  | malformed (reason : String)
deriving DecidableEq, Repr

namespace LocaleRefusal

def reason : LocaleRefusal → String
  | unknown reason => reason
  | malformed reason => reason

/-- A refusal as a failed call. -/
def fault : LocaleRefusal → Fault
  | unknown reason => .unknownLocale reason
  | malformed reason => .malformedLocale reason

/-- The notice that another locale is used instead. -/
def notice (code : String) : LocaleRefusal → Notice
  | unknown reason => .unknownLocale code reason defaultLocale
  | malformed reason => .malformedLocale code reason defaultLocale

end LocaleRefusal

/-- Installed locale data, asked by identifier. -/
abbrev LocaleData (α : Type) := String → Except LocaleRefusal (Locale α)

end BusinessCalendar
