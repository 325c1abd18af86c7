import BusinessCalendar.Fault
import BusinessCalendar.Gregorian.Date

/-!
# Dates with or without a time of day

A `Moment` is a date that may carry a time of day and an offset from universal time.  The clock
rides along: moving a moment by whole days changes its date and nothing else, and no function of
this library but the comparison of two moments looks at it.

* `Moment.shift` — moving by whole days, inside the representable days.
* `Moment.moveTo` — moving to a given day.
* `Moment.before` — the order of two moments, by instant where both have an offset.
-/

namespace BusinessCalendar

/-- A time of day in microseconds since midnight, with its offset east of universal time. -/
structure Clock where
  microsecond : Nat
  offset : Option Int
deriving DecidableEq, Repr

/-- A date that may carry a time of day. -/
structure Moment where
  date : Date
  clock : Option Clock
deriving DecidableEq, Repr

/-- Microseconds in a day. -/
def microsecondsPerDay : Int := 86400000000

namespace Clock

/-- The time of day as `23:59:59.999999+05:30`; a whole second has no fraction. -/
def timeText (microsecond : Nat) : String :=
  let seconds := microsecond / 1000000
  let fraction := microsecond % 1000000
  let whole :=
    Text.zeroPadded 2 (seconds / 3600) ++ ":" ++ Text.zeroPadded 2 (seconds / 60 % 60 : Nat) ++ ":" ++
      Text.zeroPadded 2 (seconds % 60 : Nat)
  if fraction = 0 then whole else whole ++ "." ++ Text.zeroPadded 6 fraction

/-- An offset as `+05:30`; seconds and their fraction only where there are any. -/
def offsetText (offset : Int) : String :=
  let size := offset.natAbs
  let minutes := size / 60000000
  let seconds := size / 1000000 % 60
  let fraction := size % 1000000
  (if offset < 0 then "-" else "+") ++ Text.zeroPadded 2 (minutes / 60 : Nat) ++ ":" ++
    Text.zeroPadded 2 (minutes % 60 : Nat) ++
    (if seconds = 0 ∧ fraction = 0 then "" else ":" ++ Text.zeroPadded 2 seconds) ++
    (if fraction = 0 then "" else "." ++ Text.zeroPadded 6 fraction)

/-- The time of day and the offset, if there is one. -/
def iso (c : Clock) : String :=
  timeText c.microsecond ++ (c.offset.elim "" offsetText)

end Clock

namespace Moment

/-- A date without a time of day. -/
def ofDate (d : Date) : Moment := { date := d, clock := none }

instance : Coe Date Moment := ⟨ofDate⟩

def dayNumber (m : Moment) : Int := m.date.dayNumber

/-- The date, and after a separator the time of day. -/
def text (separator : String) (m : Moment) : String :=
  m.date.iso ++ m.clock.elim "" fun c => separator ++ c.iso

/-- The moment as `2024-02-29` or `2024-02-29T23:59:59+05:30`. -/
def iso (m : Moment) : String := m.text "T"

def withDate (m : Moment) (d : Date) : Moment := { m with date := d }

/-- The moment a number of days later, with its clock; a day outside the representable days is
the reported cause. -/
def shift (m : Moment) (days : Int) : Except Cause Moment :=
  if h : Representable (m.dayNumber + days) then .ok (m.withDate (Date.ofDay _ h))
  else .error (.resultOutOfRange m.iso days)

/-- The same clock on a given day. -/
def moveTo (m : Moment) (day : Int) : Except Cause Moment :=
  m.shift (day - m.dayNumber)

@[simp] theorem dayNumber_ofDate (d : Date) : (ofDate d).dayNumber = d.dayNumber := rfl

theorem representable_dayNumber (m : Moment) : Representable m.dayNumber :=
  m.date.representable_dayNumber

/-- A moment is moved exactly when the day it is moved to is representable. -/
theorem shift_eq_ok_iff {m r : Moment} {days : Int} :
    m.shift days = .ok r ↔ r.dayNumber = m.dayNumber + days ∧ r.clock = m.clock := by
  rw [shift]
  split
  · rename_i h
    constructor
    · intro heq
      cases heq
      exact ⟨Date.dayNumber_ofDay _ h, rfl⟩
    · rintro ⟨hday, hclock⟩
      obtain ⟨d, c⟩ := r
      simp only at hclock
      subst hclock
      have hd : d = Date.ofDay _ h := Date.dayNumber_inj (by rw [Date.dayNumber_ofDay]; exact hday)
      rw [hd]
      rfl
  · rename_i h
    constructor
    · intro heq
      cases heq
    · rintro ⟨hday, -⟩
      exact absurd (hday ▸ r.representable_dayNumber) h

/-! ## Order -/

/-- Microseconds since the start of the line of days, by the clock on the wall. -/
def wall (m : Moment) (c : Clock) : Int := m.dayNumber * microsecondsPerDay + c.microsecond

/-- Whether a moment comes before another.  Moments with an offset are ordered as instants;
a date and a time of day, or two times of which one has an offset, have no order. -/
def before (a b : Moment) : Outcome Bool :=
  match a.clock, b.clock with
  | none, none => .ok (a.dayNumber < b.dayNumber)
  | some c, some e =>
    match c.offset, e.offset with
    | none, none => .ok (a.wall c < b.wall e)
    | some x, some y => .ok (a.wall c - x < b.wall e - y)
    | _, _ => .error (.unordered "can't compare offset-naive and offset-aware datetimes")
  | _, _ => .error (.unordered "can't compare datetime.datetime to datetime.date")

/-- Whether two moments are the same date, the same wall time or the same instant. -/
def same (a b : Moment) : Bool :=
  match a.clock, b.clock with
  | none, none => a.dayNumber == b.dayNumber
  | some c, some e =>
    match c.offset, e.offset with
    | none, none => a.wall c == b.wall e
    | some x, some y => a.wall c - x == b.wall e - y
    | _, _ => false
  | _, _ => false

end Moment

end BusinessCalendar
