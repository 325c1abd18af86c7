/-!
# Positions of a weekday within a month

The first to the fifth count from the start of the month; the last counts from its end and
exists in every month.
-/

namespace BusinessCalendar

/-- The position of a weekday within a month. -/
inductive MonthOrdinal where
  | first
  | second
  | third
  | fourth
  | fifth
  | last
deriving DecidableEq, Repr, Inhabited

namespace MonthOrdinal

def all : List MonthOrdinal := [.first, .second, .third, .fourth, .fifth, .last]

/-- The number of a position: 1 to 5, and -1 for the last. -/
def number : MonthOrdinal → Int
  | .first => 1
  | .second => 2
  | .third => 3
  | .fourth => 4
  | .fifth => 5
  | .last => -1

def name : MonthOrdinal → String
  | .first => "FIRST"
  | .second => "SECOND"
  | .third => "THIRD"
  | .fourth => "FOURTH"
  | .fifth => "FIFTH"
  | .last => "LAST"

def ofNumber? (n : Int) : Option MonthOrdinal :=
  all.find? fun o => o.number == n

def ofName? (s : String) : Option MonthOrdinal :=
  all.find? fun o => o.name == s

end MonthOrdinal

end BusinessCalendar
