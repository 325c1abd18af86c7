import BusinessCalendar.Gregorian.DayNumber
import Mathlib

/-!
# The line of months

Months are numbered along one line, January of year 0 being month 0, so that spans of months are
counted without a thought for the end of the year.

* `daysBeforeMonth` — the first day of a month of the line; it grows with the month
  (`daysBeforeMonth_strictMono`), by the length of the month (`daysBeforeMonth_succ`).
* `dayNumber_eq_daysBeforeMonth` — a date is its month and its day of the month.
* `three_months_bounds`, `twelve_months` — the lengths of quarters and of years, from any month on.
-/

namespace BusinessCalendar

/-- The number of a month of a year on the line of months. -/
def monthNumber (year month : Int) : Int := 12 * year + month - 1

/-- The first day of a month of the line. -/
def daysBeforeMonth (k : Int) : Int := (YearMonthDay.mk (k / 12) (k % 12 + 1) 1).dayNumber

/-- The length of a month of the line. -/
def monthLength (k : Int) : Int := daysInMonth (k / 12) (k % 12 + 1)

/-- A date is its month and its day of the month. -/
lemma dayNumber_eq_daysBeforeMonth {d : YearMonthDay} (hm : 1 ≤ d.month ∧ d.month ≤ 12) :
    d.dayNumber = daysBeforeMonth (monthNumber d.year d.month) + d.day - 1 := by
  have hyear : monthNumber d.year d.month / 12 = d.year := by
    simp only [monthNumber]
    omega
  have hmonth : monthNumber d.year d.month % 12 + 1 = d.month := by
    simp only [monthNumber]
    omega
  simp only [daysBeforeMonth, YearMonthDay.dayNumber, hyear, hmonth]
  omega

/-- A month starts as many days after the one before as that one has. -/
lemma daysBeforeMonth_succ (k : Int) :
    daysBeforeMonth (k + 1) = daysBeforeMonth k + monthLength k := by
  by_cases hdecember : k % 12 = 11
  · have hyear : (k + 1) / 12 = k / 12 + 1 := by omega
    have hmonth : (k + 1) % 12 = 0 := by omega
    simp only [daysBeforeMonth, monthLength, YearMonthDay.dayNumber, daysInMonth, hyear, hmonth,
      hdecember, YearMonthDay.daysBeforeYear_succ, daysInYear, Int.add_sub_cancel,
      Int.reduceAdd, Int.reduceSub, daysThrough_zero]
    omega
  · have hyear : (k + 1) / 12 = k / 12 := by omega
    have hmonth : (k + 1) % 12 = k % 12 + 1 := by omega
    simp only [daysBeforeMonth, monthLength, YearMonthDay.dayNumber, daysInMonth, hyear, hmonth,
      Int.add_sub_cancel]
    omega

/-! ## Lengths of months -/

lemma daysInMonth_cases (year : Int) {m : Int} (h₁ : 1 ≤ m) (h₂ : m ≤ 12) :
    (m = 2 ∧ (daysInMonth year m = 28 ∨ daysInMonth year m = 29)) ∨
      ((m = 4 ∨ m = 6 ∨ m = 9 ∨ m = 11) ∧ daysInMonth year m = 30) ∨
      ((m = 1 ∨ m = 3 ∨ m = 5 ∨ m = 7 ∨ m = 8 ∨ m = 10 ∨ m = 12) ∧ daysInMonth year m = 31) := by
  simp only [daysInMonth]
  rcases month_cases h₁ h₂ with
    rfl | rfl | rfl | rfl | rfl | rfl | rfl | rfl | rfl | rfl | rfl | rfl <;>
    cases isLeap year <;> decide

/-- On the line of months, the number of a February leaves 1 when divided by 12. -/
lemma monthLength_cases (k : Int) :
    (k % 12 = 1 ∧ (monthLength k = 28 ∨ monthLength k = 29)) ∨
      ((k % 12 = 3 ∨ k % 12 = 5 ∨ k % 12 = 8 ∨ k % 12 = 10) ∧ monthLength k = 30) ∨
      ((k % 12 = 0 ∨ k % 12 = 2 ∨ k % 12 = 4 ∨ k % 12 = 6 ∨ k % 12 = 7 ∨ k % 12 = 9 ∨
        k % 12 = 11) ∧ monthLength k = 31) := by
  have h := daysInMonth_cases (k / 12) (m := k % 12 + 1) (by omega) (by omega)
  simp only [monthLength]
  omega

lemma monthLength_bounds (k : Int) : 28 ≤ monthLength k ∧ monthLength k ≤ 31 :=
  daysInMonth_bounds _ (by omega) (by omega)

lemma daysBeforeMonth_strictMono : StrictMono daysBeforeMonth := by
  refine strictMono_int_of_lt_succ fun k => ?_
  have := monthLength_bounds k
  rw [daysBeforeMonth_succ]
  omega

/-- Three months have 89 to 92 days: of three months in a row at least one has 31 days, and two
short ones never stand together. -/
lemma three_months_bounds (k : Int) :
    89 ≤ daysBeforeMonth (k + 3) - daysBeforeMonth k ∧
      daysBeforeMonth (k + 3) - daysBeforeMonth k ≤ 92 := by
  have hsum : daysBeforeMonth (k + 3) - daysBeforeMonth k =
      monthLength k + monthLength (k + 1) + monthLength (k + 2) := by
    rw [show k + 3 = k + 1 + 1 + 1 by omega, show k + 2 = k + 1 + 1 by omega]
    simp only [daysBeforeMonth_succ]
    omega
  have h₀ := monthLength_cases k
  have h₁ := monthLength_cases (k + 1)
  have h₂ := monthLength_cases (k + 2)
  rw [hsum]
  omega

/-- Twelve months have 365 or 366 days, wherever they start. -/
lemma twelve_months (k : Int) :
    daysBeforeMonth (k + 12) - daysBeforeMonth k = 365 ∨
      daysBeforeMonth (k + 12) - daysBeforeMonth k = 366 := by
  have hyear : (k + 12) / 12 = k / 12 + 1 := by omega
  have hmonth : (k + 12) % 12 = k % 12 := by omega
  simp only [daysBeforeMonth, YearMonthDay.dayNumber, hyear, hmonth, Int.add_sub_cancel,
    YearMonthDay.daysBeforeYear_succ, daysInYear_eq, daysThrough]
  by_cases hmarch : 2 ≤ k % 12
  · -- from March on, the leap day passed is the one of the later year
    simp only [hmarch, decide_true, Bool.and_true]
    split <;> split <;> omega
  · simp only [hmarch, decide_false, Bool.and_false]
    split <;> omega

end BusinessCalendar
