import BusinessCalendar.Moment.Basic

/-!
# Searching for weekdays

How many days lie between a day and the nearest days that fall on a weekday, and the moments
that many days away.

* Inclusive searches (`Moment.onOrAfter`, `Moment.onOrBefore`) return a matching moment unchanged.
* Strict searches (`Moment.strictlyAfter`, `Moment.strictlyBefore`) move it a full week.
* `Moment.nearest` — the closer of the two; within a week of seven days there are no ties.
* `Moment.weekStart`, `Moment.weekEnd` — the ends of the week that begins on a weekday.
-/

namespace BusinessCalendar

namespace Weekday

/-- Days from a day to the next one on a weekday, 0 if it falls there itself. -/
def daysForward (w : Weekday) (n : Int) : Int := (w.index - n) % 7

/-- Days from the last one on a weekday to a day, 0 if it falls there itself. -/
def daysBackward (w : Weekday) (n : Int) : Int := (n - w.index) % 7

/-- A distance of none is read as a full week. -/
def orFullWeek (days : Int) : Int := if days = 0 then 7 else days

def pred (w : Weekday) : Weekday := onDay (w.index + 6)

theorem daysForward_bounds (w : Weekday) (n : Int) : 0 ≤ w.daysForward n ∧ w.daysForward n ≤ 6 := by
  rw [daysForward]
  omega

theorem daysBackward_bounds (w : Weekday) (n : Int) :
    0 ≤ w.daysBackward n ∧ w.daysBackward n ≤ 6 := by
  rw [daysBackward]
  omega

/-- A forward search ends on its weekday. -/
theorem onDay_add_daysForward (w : Weekday) (n : Int) : onDay (n + w.daysForward n) = w := by
  have := w.index_bounds
  rw [onDay_eq_iff, daysForward]
  omega

/-- A backward search ends on its weekday. -/
theorem onDay_sub_daysBackward (w : Weekday) (n : Int) : onDay (n - w.daysBackward n) = w := by
  have := w.index_bounds
  rw [onDay_eq_iff, daysBackward]
  omega

end Weekday

namespace Moment

/-- The first moment on a weekday, from this one on. -/
def onOrAfter (m : Moment) (w : Weekday) : Except Cause Moment :=
  m.shift (w.daysForward m.dayNumber)

/-- The last moment on a weekday, up to this one. -/
def onOrBefore (m : Moment) (w : Weekday) : Except Cause Moment :=
  m.shift (-w.daysBackward m.dayNumber)

/-- The first moment on a weekday after this one. -/
def strictlyAfter (m : Moment) (w : Weekday) : Except Cause Moment :=
  m.shift (Weekday.orFullWeek (w.daysForward m.dayNumber))

/-- The last moment on a weekday before this one. -/
def strictlyBefore (m : Moment) (w : Weekday) : Except Cause Moment :=
  m.shift (-Weekday.orFullWeek (w.daysBackward m.dayNumber))

/-- The moment on a weekday that is closest to this one. -/
def nearest (m : Moment) (w : Weekday) : Except Cause Moment :=
  if w.daysBackward m.dayNumber ≤ w.daysForward m.dayNumber then
    m.shift (-w.daysBackward m.dayNumber)
  else m.shift (w.daysForward m.dayNumber)

/-- The first day of the week that holds this moment; weeks begin on `firstWeekday`. -/
def weekStart (m : Moment) (firstWeekday : Weekday) : Except Cause Moment :=
  m.onOrBefore firstWeekday

/-- The last day of the week that holds this moment; weeks begin on `firstWeekday`. -/
def weekEnd (m : Moment) (firstWeekday : Weekday) : Except Cause Moment :=
  m.onOrAfter firstWeekday.pred

end Moment

end BusinessCalendar
