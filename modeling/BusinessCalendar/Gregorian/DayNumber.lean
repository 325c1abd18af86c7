import BusinessCalendar.Gregorian.Month

/-!
# The line of days

A day number counts days from 1 January of year 1, which is day 0 and a Monday.

* `YearMonthDay.dayNumber` — the closed form: whole years, leap days, months, days.
* `CyclePosition.ofDay` — the unrelated way back: the 400, 100, 4 and 1 year cycles.
* `YearMonthDay.ofDay` — the calendar date of a day, by that decomposition and a month search.
* **`dayNumber_ofDay`**, **`ofDay_dayNumber`** — the two are inverse, on the whole line of integers.

The range that dates are confined to plays no part here.
-/

namespace BusinessCalendar

/-- Days before 1 January of a year. -/
def daysBeforeYear (year : Int) : Int :=
  (year - 1) * 365 + (year - 1) / 4 - (year - 1) / 100 + (year - 1) / 400

/-- A year, a month and a day of the month; nothing is checked. -/
structure YearMonthDay where
  year : Int
  month : Int
  day : Int
deriving DecidableEq, Repr

namespace YearMonthDay

/-- The month and the day of the month exist in that year. -/
def Proper (d : YearMonthDay) : Prop :=
  (1 ≤ d.month ∧ d.month ≤ 12) ∧ (1 ≤ d.day ∧ d.day ≤ daysInMonth d.year d.month)

instance (d : YearMonthDay) : Decidable d.Proper := by unfold Proper; infer_instance

theorem proper_mk {y m d : Int} (hm : 1 ≤ m ∧ m ≤ 12) (hd : 1 ≤ d ∧ d ≤ daysInMonth y m) :
    (mk y m d).Proper :=
  ⟨hm, hd⟩

/-- Days since 1 January of year 1. -/
def dayNumber (d : YearMonthDay) : Int :=
  daysBeforeYear d.year + daysThrough (isLeap d.year) (d.month - 1) + d.day - 1

end YearMonthDay

/-! ## The cycles -/

/-- Where a day stands in the 400, 100, 4 and 1 year cycles; `dayOfYear` counts from 0. -/
structure CyclePosition where
  quadricentury : Int
  century : Int
  quadrennium : Int
  yearOfFour : Int
  dayOfYear : Int
deriving DecidableEq, Repr

namespace CyclePosition

/-- The last day of a 400 year cycle and the last day of a 4 year cycle would land in a fifth
century and a fifth year; both are held in the fourth. -/
def ofDay (n : Int) : CyclePosition :=
  let inQuadricentury := n % 146097
  let century := min (inQuadricentury / 36524) 3
  let inCentury := inQuadricentury - century * 36524
  let inQuadrennium := inCentury % 1461
  let yearOfFour := min (inQuadrennium / 365) 3
  { quadricentury := n / 146097
    century
    quadrennium := inCentury / 1461
    yearOfFour
    dayOfYear := inQuadrennium - yearOfFour * 365 }

def year (p : CyclePosition) : Int :=
  p.quadricentury * 400 + p.century * 100 + p.quadrennium * 4 + p.yearOfFour + 1

/-- The leap test in terms of the cycles: the fourth year of four, unless it ends a century that
is not the fourth. -/
def leap (p : CyclePosition) : Bool :=
  p.yearOfFour == 3 && (p.quadrennium != 24 || p.century == 3)

/-- The cycle indices stay inside their cycles. -/
theorem ofDay_bounds (n : Int) :
    (0 ≤ (ofDay n).century ∧ (ofDay n).century ≤ 3) ∧
      (0 ≤ (ofDay n).quadrennium ∧ (ofDay n).quadrennium ≤ 24) ∧
      (0 ≤ (ofDay n).yearOfFour ∧ (ofDay n).yearOfFour ≤ 3) := by
  simp only [ofDay]
  omega

/-- The parts add up to the day. -/
theorem ofDay_sum (n : Int) :
    (ofDay n).quadricentury * 146097 + (ofDay n).century * 36524 + (ofDay n).quadrennium * 1461 +
      (ofDay n).yearOfFour * 365 + (ofDay n).dayOfYear = n := by
  simp only [ofDay]
  omega

/-- The test in terms of the cycles is the test on the year. -/
theorem leap_ofDay (n : Int) : (ofDay n).leap = isLeap (ofDay n).year := by
  have h := ofDay_bounds n
  simp only [leap, isLeap, year]
  rw [Bool.eq_iff_iff]
  simp only [Bool.and_eq_true, Bool.or_eq_true, beq_iff_eq, bne_iff_ne]
  omega

/-- The remaining day lies inside the year. -/
theorem dayOfYear_bounds (n : Int) :
    0 ≤ (ofDay n).dayOfYear ∧ (ofDay n).dayOfYear < daysThrough (ofDay n).leap 12 := by
  rw [daysThrough_twelve]
  refine ⟨by simp only [ofDay]; omega, ?_⟩
  split
  · simp only [ofDay]; omega
  · rename_i h
    simp only [leap, Bool.and_eq_true, Bool.or_eq_true, beq_iff_eq, bne_iff_ne, ofDay] at h
    simp only [ofDay]
    omega

/-- The cycles count the same days before a year as the closed form does. -/
theorem daysBeforeYear_ofDay (n : Int) :
    daysBeforeYear (ofDay n).year + (ofDay n).dayOfYear = n := by
  have h := ofDay_bounds n
  have hs := ofDay_sum n
  simp only [daysBeforeYear, year]
  generalize ofDay n = p at h hs ⊢
  obtain ⟨q, c, f, y, r⟩ := p
  simp only at h hs ⊢
  have h4 : (q * 400 + c * 100 + f * 4 + y + 1 - 1) / 4 = q * 100 + c * 25 + f := by omega
  have h100 : (q * 400 + c * 100 + f * 4 + y + 1 - 1) / 100 = q * 4 + c := by omega
  have h400 : (q * 400 + c * 100 + f * 4 + y + 1 - 1) / 400 = q := by omega
  omega

end CyclePosition

/-! ## From a day to its calendar date -/

/-- The first month, from a guess on, whose end lies after the day; December is the last tried. -/
def monthFrom (leap : Bool) (dayOfYear month : Int) : Int :=
  if month < 12 ∧ daysThrough leap month ≤ dayOfYear then monthFrom leap dayOfYear (month + 1)
  else month
termination_by (12 - month).toNat

/-- The calendar date of a day. The month search starts at `dayOfYear / 32 + 1`, which never
overshoots because no month is longer than 31 days. -/
def YearMonthDay.ofDay (n : Int) : YearMonthDay :=
  let p := CyclePosition.ofDay n
  let month := monthFrom p.leap p.dayOfYear (p.dayOfYear / 32 + 1)
  { year := p.year
    month
    day := p.dayOfYear - daysThrough p.leap (month - 1) + 1 }

/-- From a guess that does not overshoot, the search finds the month that holds the day. -/
theorem monthFrom_bounds (leap : Bool) (r m : Int) (h₁ : 1 ≤ m) (h₂ : m ≤ 12)
    (hlow : daysThrough leap (m - 1) ≤ r) (hhigh : r < daysThrough leap 12) :
    (1 ≤ monthFrom leap r m ∧ monthFrom leap r m ≤ 12) ∧
      daysThrough leap (monthFrom leap r m - 1) ≤ r ∧ r < daysThrough leap (monthFrom leap r m) := by
  fun_induction monthFrom leap r m with
  | case1 m h ih =>
    exact ih (by omega) (by omega) (by rw [Int.add_sub_cancel]; exact h.2)
  | case2 m h =>
    refine ⟨⟨h₁, h₂⟩, hlow, ?_⟩
    by_cases hm : m < 12
    · exact Int.not_le.1 fun hle => h ⟨hm, hle⟩
    · rw [show m = 12 by omega]; exact hhigh

/-- The guess is a month, and it does not overshoot. -/
theorem monthGuess_bounds (leap : Bool) {r : Int} (h₁ : 0 ≤ r) (h₂ : r < daysThrough leap 12) :
    (1 ≤ r / 32 + 1 ∧ r / 32 + 1 ≤ 12) ∧ daysThrough leap (r / 32 + 1 - 1) ≤ r := by
  have h : r < 366 := by
    rw [daysThrough_twelve] at h₂
    split at h₂ <;> omega
  have := (daysThrough_bounds leap (m := r / 32 + 1 - 1) (by omega) (by omega)).2
  omega

namespace YearMonthDay

/-- The month search, run on the day of the year of a position. -/
theorem ofDay_month (n : Int) :
    (1 ≤ (ofDay n).month ∧ (ofDay n).month ≤ 12) ∧
      daysThrough (isLeap (ofDay n).year) ((ofDay n).month - 1) ≤ (CyclePosition.ofDay n).dayOfYear ∧
      (CyclePosition.ofDay n).dayOfYear < daysThrough (isLeap (ofDay n).year) (ofDay n).month := by
  have hb := CyclePosition.dayOfYear_bounds n
  have hg := monthGuess_bounds (CyclePosition.ofDay n).leap hb.1 hb.2
  have := monthFrom_bounds _ _ _ hg.1.1 hg.1.2 hg.2 hb.2
  simp only [ofDay, ← CyclePosition.leap_ofDay]
  exact this

/-- The calendar date of a day exists. -/
theorem ofDay_proper (n : Int) : (ofDay n).Proper := by
  have h := ofDay_month n
  refine ⟨h.1, ?_⟩
  have hd : (ofDay n).day = (CyclePosition.ofDay n).dayOfYear
      - daysThrough (isLeap (ofDay n).year) ((ofDay n).month - 1) + 1 := by
    simp only [ofDay, ← CyclePosition.leap_ofDay]
  rw [hd, daysInMonth]
  omega

/-- **Counting the days of a day's calendar date gives the day back.** -/
theorem dayNumber_ofDay (n : Int) : (ofDay n).dayNumber = n := by
  have h := CyclePosition.daysBeforeYear_ofDay n
  simp only [dayNumber, ofDay, ← CyclePosition.leap_ofDay]
  omega

/-! ## A day has one calendar date -/

/-- A year is as long as the next one starts later. -/
theorem daysBeforeYear_succ (y : Int) : daysBeforeYear (y + 1) = daysBeforeYear y + daysInYear y := by
  have h : isLeap y = true ↔ y % 4 = 0 ∧ (y % 100 ≠ 0 ∨ y % 400 = 0) := by simp [isLeap]
  have h4 : y / 4 = (y - 1) / 4 + if y % 4 = 0 then 1 else 0 := by split <;> omega
  have h100 : y / 100 = (y - 1) / 100 + if y % 100 = 0 then 1 else 0 := by split <;> omega
  have h400 : y / 400 = (y - 1) / 400 + if y % 400 = 0 then 1 else 0 := by split <;> omega
  rw [daysInYear_eq]
  simp only [daysBeforeYear, Int.add_sub_cancel, h4, h100, h400, h]
  split <;> split <;> split <;> split <;> omega

theorem daysBeforeYear_mono {y z : Int} (h : y ≤ z) : daysBeforeYear y ≤ daysBeforeYear z := by
  simp only [daysBeforeYear]
  omega

/-- A proper date lies inside its year. -/
theorem dayNumber_bounds {d : YearMonthDay} (h : d.Proper) :
    daysBeforeYear d.year ≤ d.dayNumber ∧ d.dayNumber < daysBeforeYear (d.year + 1) := by
  obtain ⟨⟨hm₁, hm₂⟩, hd₁, hd₂⟩ := h
  have hlow := (daysThrough_bounds (isLeap d.year) (m := d.month - 1) (by omega) (by omega)).1
  have hhigh := daysThrough_mono (isLeap d.year) (m := d.month) (k := 12) (by omega) hm₂ (by omega)
  rw [daysBeforeYear_succ, daysInYear, dayNumber]
  rw [daysInMonth] at hd₂
  omega

/-- Dates of different years are ordered as the years are. -/
theorem dayNumber_lt_of_year_lt {d e : YearMonthDay} (hd : d.Proper) (he : e.Proper)
    (h : d.year < e.year) : d.dayNumber < e.dayNumber :=
  Int.lt_of_lt_of_le (dayNumber_bounds hd).2
    (Int.le_trans (daysBeforeYear_mono h) (dayNumber_bounds he).1)

/-- Dates of one year are ordered as the months are. -/
theorem dayNumber_lt_of_month_lt {d e : YearMonthDay} (hd : d.Proper) (he : e.Proper)
    (hy : d.year = e.year) (h : d.month < e.month) : d.dayNumber < e.dayNumber := by
  have hmono := daysThrough_mono (isLeap d.year) (m := d.month) (k := e.month - 1)
    (by have := hd.1.1; omega) (by omega) (by have := he.1.2; omega)
  have h₁ := hd.2.2
  have h₂ := he.2.1
  rw [daysInMonth] at h₁
  simp only [dayNumber, ← hy]
  omega

/-- The day line and the calendar agree on the order. -/
theorem dayNumber_lt_iff {d e : YearMonthDay} (hd : d.Proper) (he : e.Proper) :
    d.dayNumber < e.dayNumber ↔
      d.year < e.year ∨
        (d.year = e.year ∧ (d.month < e.month ∨ (d.month = e.month ∧ d.day < e.day))) := by
  have hsame : d.year = e.year → d.month = e.month → (d.dayNumber < e.dayNumber ↔ d.day < e.day) := by
    intro hy hm
    simp only [dayNumber, hy, hm]
    omega
  constructor
  · intro h
    rcases Int.lt_trichotomy d.year e.year with hy | hy | hy
    · exact .inl hy
    · rcases Int.lt_trichotomy d.month e.month with hm | hm | hm
      · exact .inr ⟨hy, .inl hm⟩
      · exact .inr ⟨hy, .inr ⟨hm, (hsame hy hm).1 h⟩⟩
      · have := dayNumber_lt_of_month_lt he hd hy.symm hm; omega
    · have := dayNumber_lt_of_year_lt he hd hy; omega
  · rintro (hy | ⟨hy, hm | ⟨hm, h⟩⟩)
    · exact dayNumber_lt_of_year_lt hd he hy
    · exact dayNumber_lt_of_month_lt hd he hy hm
    · exact (hsame hy hm).2 h

/-- Two proper dates of one day are one date. -/
theorem eq_of_dayNumber_eq {d e : YearMonthDay} (hd : d.Proper) (he : e.Proper)
    (h : d.dayNumber = e.dayNumber) : d = e := by
  have h₁ := dayNumber_lt_iff hd he
  have h₂ := dayNumber_lt_iff he hd
  obtain ⟨y, m, k⟩ := d
  obtain ⟨y', m', k'⟩ := e
  simp only at h₁ h₂
  rw [mk.injEq]
  omega

/-- **The calendar date of a proper date's day is that date.** -/
theorem ofDay_dayNumber {d : YearMonthDay} (h : d.Proper) : ofDay d.dayNumber = d :=
  eq_of_dayNumber_eq (ofDay_proper _) h (dayNumber_ofDay _)

end YearMonthDay

end BusinessCalendar
