import BusinessCalendar.Navigation
import BusinessCalendar.Notice

/-!
# Fiscal years of whole weeks

A 5-4-4 fiscal year starts on a fixed weekday, on or before a chosen date, and has 52 or 53
weeks.  It keeps the nominal date from which its length and the next fiscal year derive.

* `FiscalYear.build` — a year from its start, which is moved back to the first weekday.
* `FiscalYear.derivedLong` — 53 weeks when the next year's aligned start is more than 364 days
  away.
* `FiscalYear.next` — the year after, which starts the day after this one ends.
-/

namespace BusinessCalendar

/-- The same day a calendar year later; 29 February becomes 28 February. -/
def Date.sameDayNextYear (d : Date) (h : d.year < maxYear) : Date :=
  { year := d.year + 1
    month := d.month
    day := min d.day (daysInMonth (d.year + 1) d.month)
    valid := by
      obtain ⟨⟨hlow, -⟩, hm, hd, -⟩ := d.valid
      have := daysInMonth_bounds (d.year + 1) hm.1 hm.2
      exact YearMonthDay.valid_mk (by omega) hm (by omega) }

/-- A fiscal year of 52 or 53 weeks. -/
structure FiscalYear where
  start : Date
  firstWeekday : Weekday
  /-- Whether the year has a 53rd week. -/
  long : Bool
  nominalStart : Date
  /-- The year starts on its first weekday. -/
  start_weekday : start.weekday = firstWeekday
deriving DecidableEq

namespace FiscalYear

instance : Repr FiscalYear where
  reprPrec y p := reprPrec (y.start, y.firstWeekday, y.long, y.nominalStart) p

def weeks (y : FiscalYear) : Int := if y.long then 53 else 52

/-- A fiscal year must have 52 or 53 weeks. -/
def checkLong (weeks : Numeral) : Except Cause Bool :=
  if weeks.value = 52 then .ok false
  else if weeks.value = 53 then .ok true
  else .error (.fiscalWeeksOutOfRange weeks)

/-- A date moved back to a weekday. -/
def alignBack (d : Date) (w : Weekday) : Except Cause { s : Date // s.weekday = w } :=
  match h : (Moment.ofDate d).weekStart w with
  | .ok m =>
    .ok ⟨m.date, by
      have hday := (Moment.shift_eq_ok_iff.1 h).1
      simp only [Date.weekday, Moment.dayNumber, ← Int.sub_eq_add_neg] at hday ⊢
      rw [hday]
      exact w.onDay_sub_daysBackward _⟩
  | .error c => .error c

/-- Whether the year from an aligned start has 53 weeks: the next year's start, the nominal date a
year later moved back to the first weekday, is more than 364 days away.  After a nominal date in
the last representable year there is no next year to measure. -/
def derivedLong (aligned nominal : Date) (w : Weekday) : Except Cause Bool :=
  if h : nominal.year < maxYear then do
    let next ← (Moment.ofDate (nominal.sameDayNextYear h)).weekStart w
    return next.dayNumber - aligned.dayNumber > 364
  else .ok false

/-- The notice of an alignment, if there was anything to align. -/
def alignmentNotices (start : Date) (w : Weekday) (aligned : Date) : List Notice :=
  if aligned = start then [] else [.alignedBack start w aligned]

/-- A fiscal year from its start, its nominal date and the way to find its length, which is asked
only once the start is aligned. -/
def build (start nominal : Date) (w : Weekday) (long : Date → Outcome Bool) : Logged FiscalYear :=
  match alignBack start w with
  | .error c => .silent (raise c)
  | .ok ⟨aligned, h⟩ =>
    { notices := alignmentNotices start w aligned
      outcome := do
        return { start := aligned, firstWeekday := w, long := ← long aligned
                 nominalStart := nominal, start_weekday := h } }

/-- A fiscal year whose length derives from its nominal date. -/
def derive (start nominal : Date) (w : Weekday) : Logged FiscalYear :=
  build start nominal w fun aligned => liftCause (derivedLong aligned nominal w)

/-- The last day, as a day of the unbounded line. -/
def lastDay (y : FiscalYear) : Int := y.start.dayNumber + y.weeks * 7 - 1

def stop (y : FiscalYear) : Except Cause Date := Date.atDay y.lastDay

/-- The fiscal year after: it starts the day after this one ends, and its nominal date is a
calendar year later. -/
def next (y : FiscalYear) : Logged FiscalYear :=
  if h : y.nominalStart.year < maxYear then
    match y.stop with
    | .error c => .silent (raise c)
    | .ok stop =>
      match Date.atDay (stop.dayNumber + 1) with
      | .error c => .silent (raise c)
      | .ok start => derive start (y.nominalStart.sameDayNextYear h) y.firstWeekday
  else .silent (raise (.yearOutOfRange "fiscal_year" (y.nominalStart.year + 1 : Int)))

end FiscalYear

end BusinessCalendar
