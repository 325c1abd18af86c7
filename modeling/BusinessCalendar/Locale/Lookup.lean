import BusinessCalendar.Locale.Cache
import BusinessCalendar.Locale.Convention

/-!
# Week conventions of locale codes

Two ways to the convention of a code, over one cache.

* `LocaleCache.convention` — lenient: a code without a locale falls back to `en_US` with a warning.
* `LocaleCache.conventionOrRaise` — strict: such a code is a failure.

Both need locale data; a cache alone does not answer.
-/

namespace BusinessCalendar

namespace LocaleCache

/-- The locale of a code by way of the cache. -/
def locale {α : Type} (data : LocaleData α) (c : LocaleCache α) (code : LocaleCode) :
    Except LocaleRefusal (Locale α) × LocaleCache α :=
  c.lookup code fun code => data code.identifier

/-- The convention of a code; where it has no locale, that of `en_US` after a warning. -/
def convention (data : LocaleData Value) (c : LocaleCache Value) (code : LocaleCode) :
    Logged WeekConvention × LocaleCache Value :=
  match c.locale data code with
  | (.ok l, c) => (l.convention, c)
  | (.error refusal, c) =>
    let warning : Logged Unit := { notices := [refusal.notice code.text], outcome := .ok () }
    match c.locale data { text := defaultLocale } with
    | (.ok l, c) => (warning.andThen fun _ => l.convention, c)
    | (.error again, c) => (warning.andThen fun _ => .silent (.error again.fault), c)

/-- The convention of a code; `literal` shows the code, as it was given, if it has no locale. -/
def conventionOrRaise (data : LocaleData Value) (c : LocaleCache Value) (code : LocaleCode)
    (literal : String) : Logged WeekConvention × LocaleCache Value :=
  match c.locale data code with
  | (.ok l, c) => (l.convention, c)
  | (.error refusal, c) => (.silent (raise (.localeUnknown code.text literal refusal.reason)), c)

end LocaleCache

end BusinessCalendar
