import BusinessCalendar.Locale.Basic
import BusinessCalendar.Value.Compare

/-!
# The week convention of a locale

What a locale publishes is taken for what it is equal to: 4.0 is as good as 4.

* `Locale.rule` — the rule with the published number of days; where no rule has it, the ISO rule and
  a notice.
* `Locale.convention` — the rule, with the weekday of the published number.
-/

namespace BusinessCalendar

namespace Locale

/-- The rule of a locale, and the notice if its number of days has none. -/
def rule (l : Locale Value) : WeekRule × List Notice :=
  match l.minDays.integer?.bind WeekRule.ofMinDays? with
  | some rule => (rule, [])
  | none =>
    (.firstFourDayWeek,
      [.unusableMinDays l.name l.minDays.shown.toOption WeekRule.firstFourDayWeek.name])

def weekStart (l : Locale Value) : Outcome Weekday :=
  match l.firstWeekday.integer?.bind Weekday.ofIndex? with
  | some w => .ok w
  | none => do .error (.notAMember (← l.firstWeekday.literal) "Day")

/-- The week convention of a locale.  The rule is looked up first, so that a number of days which
cannot be looked up fails before anything is noticed. -/
def convention (l : Locale Value) : Logged WeekConvention :=
  match l.minDays.unhashable? with
  | some kind => .silent (.error (.unhashable kind))
  | none =>
    let (rule, notices) := l.rule
    { notices
      outcome := do return { firstWeekday := ← l.weekStart, rule } }

end Locale

end BusinessCalendar
