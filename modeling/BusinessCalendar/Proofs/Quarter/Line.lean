import BusinessCalendar.Proofs.Gregorian.MonthLine
import BusinessCalendar.Quarter.Resolution

/-!
# The line of quarters

The quarters of one anchor follow each other without a gap, so they can be numbered along one line,
and a fiscal year with a quarter index is one way to write such a number.  **Each day lies in exactly
one quarter of the line** (`edge_quarterNumberOf_le`, `lt_edge_quarterNumberOf`,
`quarterNumberOf_eq`), and that is the quarter that `Anchor.locate` finds (`locate_number`,
`locate_eq`).

* `Anchor.edge` — the first day of a quarter of the line; the next one is 89 to 92 days later
  (`Anchor.edge_step`), the same one of the next year 365 or 366 (`Anchor.edge_year`).
* `Anchor.fiscalYearOf` — the fiscal year of a date, by the order of the calendar alone.
-/

namespace BusinessCalendar

/-- The number of a quarter of a fiscal year on the line of quarters. -/
def quarterNumber (year quarter : Int) : Int := 4 * year + quarter - 1

lemma quarterNumber_succ (y q : Int) : quarterNumber y (q + 1) = quarterNumber y q + 1 := by
  simp only [quarterNumber]
  omega

/-- After the fourth quarter comes the first of the next fiscal year. -/
lemma quarterNumber_five (y : Int) : quarterNumber y 5 = quarterNumber (y + 1) 1 := by
  simp only [quarterNumber]
  omega

lemma quarterNumber_inj {y z q r : Int} (hq : 1 ≤ q ∧ q ≤ 4) (hr : 1 ≤ r ∧ r ≤ 4)
    (h : quarterNumber y q = quarterNumber z r) : y = z ∧ q = r := by
  simp only [quarterNumber] at h
  omega

namespace Anchor

variable (a : Anchor)

/-! ## The edges -/

/-- The first day of a quarter of the line. -/
def edge (k : Int) : Int := daysBeforeMonth (a.month - 1 + 3 * k) + a.day - 1

lemma startMonth_bounds (quarter : Int) :
    1 ≤ a.startMonth quarter ∧ a.startMonth quarter ≤ 12 := by
  simp only [startMonth]
  omega

/-- The first day of a quarter is the edge of its number. -/
lemma startDay_eq_edge (year quarter : Int) :
    a.startDay year quarter = a.edge (quarterNumber year quarter) := by
  have hnumber : monthNumber (a.startYear year quarter) (a.startMonth quarter) =
      a.month - 1 + 3 * quarterNumber year quarter := by
    simp only [monthNumber, startYear, startMonth, monthOffset, quarterNumber]
    omega
  rw [startDay, dayNumber_eq_daysBeforeMonth (a.startMonth_bounds quarter), hnumber, edge]

/-- A quarter has 89 to 92 days. -/
lemma edge_step (k : Int) : 89 ≤ a.edge (k + 1) - a.edge k ∧ a.edge (k + 1) - a.edge k ≤ 92 := by
  have h := three_months_bounds (a.month - 1 + 3 * k)
  rw [show a.month - 1 + 3 * k + 3 = a.month - 1 + 3 * (k + 1) by omega] at h
  simp only [edge]
  omega

/-- Four quarters have 365 or 366 days. -/
lemma edge_year (k : Int) :
    a.edge (k + 4) - a.edge k = 365 ∨ a.edge (k + 4) - a.edge k = 366 := by
  have h := twelve_months (a.month - 1 + 3 * k)
  rw [show a.month - 1 + 3 * k + 12 = a.month - 1 + 3 * (k + 4) by omega] at h
  simp only [edge]
  omega

lemma edge_strictMono : StrictMono a.edge := by
  refine strictMono_int_of_lt_succ fun k => ?_
  have := a.edge_step k
  omega

/-! ## First days of quarters -/

lemma startDay_five (year : Int) : a.startDay year 5 = a.startDay (year + 1) 1 := by
  rw [startDay_eq_edge, startDay_eq_edge, quarterNumber_five]

lemma startDay_step (year quarter : Int) :
    89 ≤ a.startDay year (quarter + 1) - a.startDay year quarter ∧
      a.startDay year (quarter + 1) - a.startDay year quarter ≤ 92 := by
  rw [startDay_eq_edge, startDay_eq_edge, quarterNumber_succ]
  exact a.edge_step _

lemma startDay_year (year : Int) :
    a.startDay year 5 - a.startDay year 1 = 365 ∨ a.startDay year 5 - a.startDay year 1 = 366 := by
  have hnumber : quarterNumber year 5 = quarterNumber year 1 + 4 := by
    simp only [quarterNumber]
    omega
  rw [startDay_eq_edge, startDay_eq_edge, hnumber]
  exact a.edge_year _

/-! ## The quarter of a day -/

/-- The number of the quarter that holds a date: the months passed since the anchor month, less the
one that has not reached the anchor day, by threes. -/
def quarterNumberOf (d : YearMonthDay) : Int :=
  (monthNumber d.year d.month - (a.month - 1) - if d.day < a.day then 1 else 0) / 3

variable {a} {d : YearMonthDay}

lemma edge_quarterNumberOf_le (h : d.Proper) : a.edge (a.quarterNumberOf d) ≤ d.dayNumber := by
  have hmono := daysBeforeMonth_strictMono.monotone
  rw [dayNumber_eq_daysBeforeMonth h.1, edge]
  by_cases hday : d.day < a.day
  · -- the anchor day fits into the month in which the quarter starts, an earlier one
    have hle : a.month - 1 + 3 * a.quarterNumberOf d + 1 ≤ monthNumber d.year d.month := by
      rw [quarterNumberOf, if_pos hday]
      omega
    have hlast := hmono hle
    have hfits := monthLength_bounds (a.month - 1 + 3 * a.quarterNumberOf d)
    have hanchor := a.day_range.2
    have hd := h.2.1
    rw [daysBeforeMonth_succ] at hlast
    rw [maxAnchorDay] at hanchor
    omega
  · have hle : a.month - 1 + 3 * a.quarterNumberOf d ≤ monthNumber d.year d.month := by
      rw [quarterNumberOf, if_neg hday]
      omega
    have hlast := hmono hle
    omega

lemma lt_edge_quarterNumberOf (h : d.Proper) :
    d.dayNumber < a.edge (a.quarterNumberOf d + 1) := by
  have hmono := daysBeforeMonth_strictMono.monotone
  rw [dayNumber_eq_daysBeforeMonth h.1, edge]
  by_cases hday : d.day < a.day
  · have hle : monthNumber d.year d.month ≤ a.month - 1 + 3 * (a.quarterNumberOf d + 1) := by
      rw [quarterNumberOf, if_pos hday]
      omega
    have hnext := hmono hle
    omega
  · -- the month of the date ends before the month in which the next quarter starts
    have hle : monthNumber d.year d.month + 1 ≤ a.month - 1 + 3 * (a.quarterNumberOf d + 1) := by
      rw [quarterNumberOf, if_neg hday]
      omega
    have hnext := hmono hle
    have hlength : monthLength (monthNumber d.year d.month) = daysInMonth d.year d.month := by
      have hm := h.1
      rw [monthLength, monthNumber]
      congr 1
      · omega
      · omega
    have hanchor := a.day_range.1
    have hd := h.2.2
    rw [daysBeforeMonth_succ, hlength] at hnext
    omega

/-- Only one quarter holds a date. -/
lemma quarterNumberOf_eq {k : Int} (h : d.Proper) (hlow : a.edge k ≤ d.dayNumber)
    (hhigh : d.dayNumber < a.edge (k + 1)) : a.quarterNumberOf d = k := by
  have h₁ := a.edge_strictMono.lt_iff_lt.1 (Int.lt_of_le_of_lt (edge_quarterNumberOf_le h) hhigh)
  have h₂ := a.edge_strictMono.lt_iff_lt.1 (Int.lt_of_le_of_lt hlow (lt_edge_quarterNumberOf h))
  omega

/-! ## The fiscal year and the index -/

variable (a d)

/-- The fiscal year of a date: its calendar year once the anchor is reached, the year before until
then. -/
def fiscalYearOf : Int :=
  if toLex (a.month, a.day) ≤ toLex (d.month, d.day) then d.year else d.year - 1

lemma fiscalYearOf_le : a.fiscalYearOf d ≤ d.year := by
  simp only [fiscalYearOf]
  split_ifs <;> omega

lemma locate_year : (a.locate d).1 = a.fiscalYearOf d := by
  simp only [locate, fiscalYearOf, Prod.Lex.toLex_le_toLex]

lemma locate_index : 1 ≤ (a.locate d).2 ∧ (a.locate d).2 ≤ 4 := by
  simp only [locate]
  split_ifs <;> omega

variable {a d}

/-- The year and the index that are found for a date name the quarter of the line that holds it. -/
lemma locate_number (h : 1 ≤ d.month ∧ d.month ≤ 12) :
    quarterNumber (a.locate d).1 (a.locate d).2 = a.quarterNumberOf d := by
  have := a.month_range
  simp only [locate, quarterNumber, quarterNumberOf, monthNumber]
  split_ifs <;> omega

lemma startDay_locate_le (h : d.Proper) :
    a.startDay (a.locate d).1 (a.locate d).2 ≤ d.dayNumber := by
  rw [startDay_eq_edge, locate_number h.1]
  exact edge_quarterNumberOf_le h

lemma lt_startDay_locate (h : d.Proper) :
    d.dayNumber < a.startDay (a.locate d).1 ((a.locate d).2 + 1) := by
  rw [startDay_eq_edge, quarterNumber_succ, locate_number h.1]
  exact lt_edge_quarterNumberOf h

/-- **The quarter found for a date is the only one that holds it.** -/
theorem locate_eq {year quarter : Int} (h : d.Proper) (hq : 1 ≤ quarter ∧ quarter ≤ 4)
    (hlow : a.startDay year quarter ≤ d.dayNumber)
    (hhigh : d.dayNumber < a.startDay year (quarter + 1)) : a.locate d = (year, quarter) := by
  rw [startDay_eq_edge] at hlow
  rw [startDay_eq_edge, quarterNumber_succ] at hhigh
  have hnumber := (locate_number h.1).trans (quarterNumberOf_eq h hlow hhigh)
  obtain ⟨hyear, hindex⟩ := quarterNumber_inj (a.locate_index d) hq hnumber
  exact Prod.ext hyear hindex

end Anchor

end BusinessCalendar
