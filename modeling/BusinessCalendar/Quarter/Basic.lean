import BusinessCalendar.Gregorian.Date

/-!
# Quarters

A quarter names its fiscal year and its index in it, and has a first and a last day.
-/

namespace BusinessCalendar

/-- A quarter of a fiscal year, with its first and its last day. -/
structure Quarter where
  year : Int
  index : Int
  start : Date
  stop : Date
deriving DecidableEq, Repr

namespace Quarter

def days (q : Quarter) : Int := q.stop.dayNumber - q.start.dayNumber + 1

/-- Whether a date is a day of the quarter. -/
def contains (q : Quarter) (d : Date) : Bool :=
  q.start.dayNumber ≤ d.dayNumber && d.dayNumber ≤ q.stop.dayNumber

end Quarter

end BusinessCalendar
