import BusinessCalendar.Locale.Lookup
import BusinessCalendar.Value.Check

/-!
# Calls: locales

Look-ups of locale codes of any kind, with locale data that may not be installed.  A look-up
returns the cache it leaves behind.

* `localeOf` — a locale by its code, by way of the cache.
* `conventionOfLocale` — the convention of a locale that is at hand.
* `weekConventionOf`, `weekConventionOrRaise` — lenient and strict; both ask for installed data
  before they look at the code.
-/

namespace BusinessCalendar.Call

/-- The locale code that a value is. -/
def localeCode? : Value → Option LocaleCode
  | .text s => some { text := s }
  | v => v.text?.map fun s => { text := s, isDefinition := true }

/-- A locale code in the form that locale data is asked in. -/
def normalizeLocale (code : Value) : Outcome String :=
  match localeCode? code with
  | some c => .ok c.identifier
  | none => .error (.wrongType "locale_code" "str" code.kindName)

/-- Installed locale data, on behalf of a feature. -/
def requireLocaleData (feature : String) (data : Option (LocaleData Value)) :
    Outcome (LocaleData Value) :=
  match data with
  | some d => .ok d
  | none => .error (.localeDataUnavailable feature)

/-- A code that is not a text: it cannot be a key, or it is looked up in vain. -/
def refuseCode (data : Option (LocaleData Value)) (c : LocaleCache Value) (code : Value) :
    Fault × LocaleCache Value :=
  match code.unhashable? with
  | some kind => (.unhashable kind, c)
  | none =>
    match requireLocaleData "get_locale_class" data with
    | .ok _ => (.wrongType "locale_code" "str" code.kindName, c.miss)
    | .error f => (f, c.miss)

/-- What locale data answers for a code, installed or not. -/
def fetchLocale (data : Option (LocaleData Value)) (code : LocaleCode) :
    Outcome (Locale Value) := do
  let d ← requireLocaleData "get_locale_class" data
  (d code.identifier).mapError LocaleRefusal.fault

def localeOf (data : Option (LocaleData Value)) (c : LocaleCache Value) (code : Value) :
    Outcome (Locale Value) × LocaleCache Value :=
  match localeCode? code with
  | some s => c.lookup s (fetchLocale data)
  | none =>
    let (f, c) := refuseCode data c code
    (.error f, c)

def conventionOfLocale : Value → Logged WeekConvention
  | .locale l => l.convention
  | v => .silent (.error (.missingPart v.qualifiedKindName "min_week_days"))

/-- A look-up of a convention, on behalf of a feature. -/
def conventionWith (feature : String) (data : Option (LocaleData Value)) (c : LocaleCache Value)
    (code : Value)
    (answer : LocaleData Value → LocaleCode → Logged WeekConvention × LocaleCache Value) :
    Logged WeekConvention × LocaleCache Value :=
  match data with
  | none => (.silent (.error (.localeDataUnavailable feature)), c)
  | some d =>
    match localeCode? code with
    | some s => answer d s
    | none =>
      let (f, c) := refuseCode data c code
      (.silent (.error f), c)

/-- The week convention of a code, or of the default locale. -/
def weekConventionOf (data : Option (LocaleData Value)) (c : LocaleCache Value) (code : Value) :
    Logged WeekConvention × LocaleCache Value :=
  conventionWith "get_week_convention" data c code fun d s => c.convention d s

/-- The week convention of a code that must have a locale. -/
def weekConventionOrRaise (data : Option (LocaleData Value)) (c : LocaleCache Value)
    (code : Value) : Logged WeekConvention × LocaleCache Value :=
  conventionWith "get_week_convention_or_raise" data c code fun d s =>
    c.conventionOrRaise d s (code.quotedText?.getD "")

end BusinessCalendar.Call
