/-!
# The line of numbers

Integers and binary fractions of any size stand on one line, between two ends, and are compared as
what they are: nothing is rounded.  What is not a number stands nowhere on it.

* `Point.before`, `Point.same` — the order of the line; nothing is before or at no place.
* `Point.integer?` — the integer that stands at a point.
-/

namespace BusinessCalendar

/-- A point of the line of numbers. -/
inductive Point where
  /-- No point at all. -/
  | nowhere
  /-- The end below all numbers. -/
  | below
  /-- The number `m · 2^q`. -/
  | finite (m q : Int)
  /-- The end above all numbers. -/
  | above
deriving DecidableEq, Repr

namespace Point

/-- An integer. -/
def ofInt (n : Int) : Point := .finite n 0

/-- A number in units of `2^unit`, where it is a whole number of them. -/
def inUnits (unit m q : Int) : Int := m * Int.pow 2 (q - unit).toNat

def before : Point → Point → Bool
  | nowhere, _ | _, nowhere => false
  | _, below | above, _ => false
  | below, _ | _, above => true
  | .finite m q, .finite n r =>
    let unit := min q r
    inUnits unit m q < inUnits unit n r

def same : Point → Point → Bool
  | below, below => true
  | above, above => true
  | .finite m q, .finite n r =>
    let unit := min q r
    inUnits unit m q == inUnits unit n r
  | _, _ => false

def integer? : Point → Option Int
  | .finite m q =>
    if 0 ≤ q then some (m * Int.pow 2 q.toNat)
    else if m % Int.pow 2 (-q).toNat = 0 then some (m / Int.pow 2 (-q).toNat)
    else none
  | _ => none

end Point

end BusinessCalendar
