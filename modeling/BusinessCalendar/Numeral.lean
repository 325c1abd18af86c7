import BusinessCalendar.MonthOrdinal
import BusinessCalendar.Week.Rule
import BusinessCalendar.Weekday

/-!
# Integers as they were given

Weekdays, month positions and week rules carry a number and may stand wherever an integer may.
What they stand for is `Numeral.value`; how a report shows the given thing is `Numeral.literal`.
An integer is put into words only up to a number of digits: `Numeral.Writable`.
-/

namespace BusinessCalendar

/-- An integer, or a named constant that stands for one. -/
inductive Numeral where
  | plain (n : Int)
  | weekday (w : Weekday)
  | ordinal (o : MonthOrdinal)
  | rule (r : WeekRule)
deriving DecidableEq, Repr

namespace Numeral

def value : Numeral → Int
  | plain n => n
  | weekday w => w.index
  | ordinal o => o.number
  | rule r => r.minDays

instance : Coe Int Numeral := ⟨plain⟩

@[simp] theorem value_plain (n : Int) : (plain n).value = n := rfl

/-- The most digits that an integer is written out in. -/
def maxDigits : Nat := 4300

/-- An integer that can be put into words: a longer one has no text at all. -/
def Writable (n : Numeral) : Prop := (Nat.toDigits 10 n.value.natAbs).length ≤ maxDigits

instance : DecidablePred Writable := fun n =>
  inferInstanceAs (Decidable ((Nat.toDigits 10 n.value.natAbs).length ≤ maxDigits))

/-- Within a sentence a named constant is shown as its number. -/
def text (n : Numeral) : String := toString n.value

/-- A named constant on display: its kind, its name and its number. -/
def constantLiteral (kind name value : String) : String :=
  "<" ++ kind ++ "." ++ name ++ ": " ++ value ++ ">"

/-- How the thing given is shown when it is quoted back. -/
def literal : Numeral → String
  | plain n => toString n
  | weekday w => constantLiteral "Day" w.name (toString w.index)
  | ordinal o => constantLiteral "WeekOfMonthOrdinal" o.name (toString o.number)
  | rule r => constantLiteral "WeekRule" r.name (toString r.minDays)

end Numeral

end BusinessCalendar
