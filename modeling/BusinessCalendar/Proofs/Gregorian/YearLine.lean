import BusinessCalendar.Week.Iso
import Mathlib

/-!
# The line of years

The first days of the years follow each other along the line of days, 365 or 366 days apart, so that
the year of a day is the one whose span holds it: **`newYearsDay y ≤ n < newYearsDay (y + 1)`**
(`YearMonthDay.ofDay_year_eq_iff`).

* `newYearsDay_strictMono`, `newYearsDay_step` — the first days of years.
* `newYearsDay_nonneg`, `newYearsDay_succ_le` — the days of a representable year are representable.
* `Date.exists_dayNumber_eq_iff` — which days have a date.
* `Date.dayNumber_january`, `Date.dayNumber_december` — days counted from either end of a year.
* `Date.yearEnd` — 31 December; `Date.yearly` — a date that comes back every year.
-/

namespace BusinessCalendar

/-! ## First days of years -/

lemma newYearsDay_eq (y : Int) : newYearsDay y = daysBeforeYear y := by
  simp only [newYearsDay, YearMonthDay.dayNumber, Int.sub_self, daysThrough_zero]
  omega

lemma newYearsDay_succ (y : Int) :
    newYearsDay (y + 1) = newYearsDay y + if isLeap y then 366 else 365 := by
  rw [newYearsDay_eq, newYearsDay_eq, YearMonthDay.daysBeforeYear_succ, daysInYear_eq]

lemma newYearsDay_step (y : Int) :
    newYearsDay (y + 1) = newYearsDay y + 365 ∨ newYearsDay (y + 1) = newYearsDay y + 366 := by
  rw [newYearsDay_succ]
  split
  · exact .inr rfl
  · exact .inl rfl

/-- The day before the next year is the last one of the year. -/
lemma lastDay_mem_year (y : Int) :
    newYearsDay y ≤ newYearsDay (y + 1) - 1 ∧ newYearsDay (y + 1) - 1 < newYearsDay (y + 1) := by
  have := newYearsDay_step y
  omega

lemma isLeap_iff_newYearsDay {y : Int} :
    isLeap y = true ↔ newYearsDay (y + 1) = newYearsDay y + 366 := by
  rw [newYearsDay_succ]
  split
  · rename_i h
    exact iff_of_true h rfl
  · rename_i h
    exact iff_of_false h (by omega)

lemma newYearsDay_strictMono : StrictMono newYearsDay := by
  refine strictMono_int_of_lt_succ fun y => ?_
  have := newYearsDay_step y
  omega

lemma newYearsDay_min : newYearsDay minYear = minDay := by decide

lemma newYearsDay_max_succ : newYearsDay (maxYear + 1) = maxDay + 1 := by decide

lemma newYearsDay_nonneg {y : Int} (h : minYear ≤ y) : minDay ≤ newYearsDay y := by
  rw [← newYearsDay_min]
  exact newYearsDay_strictMono.monotone h

lemma newYearsDay_succ_le {y : Int} (h : y ≤ maxYear) : newYearsDay (y + 1) ≤ maxDay + 1 := by
  rw [← newYearsDay_max_succ]
  exact newYearsDay_strictMono.monotone (Int.add_le_add_right h 1)

/-! ## The year of a day -/

namespace YearMonthDay

lemma dayNumber_mem_year {d : YearMonthDay} (h : d.Proper) :
    newYearsDay d.year ≤ d.dayNumber ∧ d.dayNumber < newYearsDay (d.year + 1) := by
  rw [newYearsDay_eq, newYearsDay_eq]
  exact dayNumber_bounds h

/-- **The year of a day is the one whose span holds it.** -/
theorem ofDay_year_eq_iff {n y : Int} :
    (ofDay n).year = y ↔ newYearsDay y ≤ n ∧ n < newYearsDay (y + 1) := by
  have hspan := dayNumber_mem_year (ofDay_proper n)
  rw [dayNumber_ofDay] at hspan
  constructor
  · rintro rfl
    exact hspan
  · rintro ⟨hlow, hhigh⟩
    have h₁ := newYearsDay_strictMono.lt_iff_lt.1 (Int.lt_of_le_of_lt hlow hspan.2)
    have h₂ := newYearsDay_strictMono.lt_iff_lt.1 (Int.lt_of_le_of_lt hspan.1 hhigh)
    omega

lemma ofDay_year_mono {m n : Int} (h : m ≤ n) : (ofDay m).year ≤ (ofDay n).year := by
  have hm := (ofDay_year_eq_iff (n := m)).1 rfl
  have hn := (ofDay_year_eq_iff (n := n)).1 rfl
  exact Int.lt_add_one_iff.1
    (newYearsDay_strictMono.lt_iff_lt.1 (Int.lt_of_le_of_lt hm.1 (Int.lt_of_le_of_lt h hn.2)))

/-- The line of days goes on with year 10000 after the last date. -/
lemma ofDay_year_of_maxDay_lt {n : Int} (hlow : maxDay < n) (hhigh : n ≤ maxDay + 365) :
    (ofDay n).year = 10000 := by
  have hfirst : newYearsDay 10000 = maxDay + 1 := newYearsDay_max_succ
  have hlength := newYearsDay_step 10000
  rw [ofDay_year_eq_iff]
  omega

end YearMonthDay

lemma daysInMonth_december (year : Int) : daysInMonth year 12 = 31 := by
  rw [daysInMonth]
  cases isLeap year <;> rfl

namespace Date

/-- A day from the first one on has a date exactly when it is not after the last. -/
lemma exists_dayNumber_eq_iff {n : Int} (hn : minDay ≤ n) :
    (∃ d : Date, d.dayNumber = n) ↔ n ≤ maxDay := by
  constructor
  · rintro ⟨d, rfl⟩
    exact d.representable_dayNumber.2
  · intro h
    exact ⟨ofDay n ⟨hn, h⟩, dayNumber_ofDay n ⟨hn, h⟩⟩

lemma year_eq_iff {d : Date} {y : Int} :
    d.year = y ↔ newYearsDay y ≤ d.dayNumber ∧ d.dayNumber < newYearsDay (y + 1) := by
  rw [← YearMonthDay.ofDay_year_eq_iff, dayNumber, YearMonthDay.ofDay_dayNumber d.valid.2]

lemma dayNumber_mem_year (d : Date) :
    newYearsDay d.year ≤ d.dayNumber ∧ d.dayNumber < newYearsDay (d.year + 1) :=
  year_eq_iff.1 rfl

lemma le_year_iff {d : Date} {y : Int} : y ≤ d.year ↔ newYearsDay y ≤ d.dayNumber := by
  obtain ⟨hlow, hhigh⟩ := d.dayNumber_mem_year
  constructor
  · intro h
    exact Int.le_trans (newYearsDay_strictMono.monotone h) hlow
  · intro h
    exact Int.lt_add_one_iff.1 (newYearsDay_strictMono.lt_iff_lt.1 (Int.lt_of_le_of_lt h hhigh))

/-! ## The two ends of a year -/

lemma dayNumber_january {d : Date} (h : d.month = 1) :
    d.dayNumber = newYearsDay d.year + d.day - 1 := by
  rw [newYearsDay_eq, dayNumber, YearMonthDay.dayNumber, h, Int.sub_self, daysThrough_zero]
  omega

lemma dayNumber_december {d : Date} (h : d.month = 12) :
    d.dayNumber = newYearsDay (d.year + 1) - 32 + d.day := by
  have hlength := daysInMonth_december d.year
  rw [daysInMonth] at hlength
  rw [newYearsDay_eq, YearMonthDay.daysBeforeYear_succ, daysInYear, dayNumber,
    YearMonthDay.dayNumber, h]
  omega

/-- The last 31 days of a year are those of December. -/
lemma month_eq_december {d : Date} (h : newYearsDay (d.year + 1) - 31 ≤ d.dayNumber) :
    d.month = 12 := by
  obtain ⟨-, ⟨hm₁, hm₂⟩, -, hday⟩ := d.valid
  by_contra hne
  have hmonths := daysThrough_mono (isLeap d.year) (m := d.month) (k := 11) (by omega) (by omega)
    (by omega)
  have hlength := daysInMonth_december d.year
  simp only [daysInMonth, Int.reduceSub] at hday hlength
  rw [newYearsDay_eq, YearMonthDay.daysBeforeYear_succ, daysInYear, dayNumber,
    YearMonthDay.dayNumber] at h
  omega

/-- The last day of a year is 31 December. -/
lemma dayNumber_eq_lastDay_iff {d : Date} :
    d.dayNumber = newYearsDay (d.year + 1) - 1 ↔ d.month = 12 ∧ d.day = 31 := by
  constructor
  · intro h
    have hmonth : d.month = 12 := month_eq_december (by omega)
    refine ⟨hmonth, ?_⟩
    rw [dayNumber_december hmonth] at h
    omega
  · rintro ⟨hmonth, hday⟩
    rw [dayNumber_december hmonth]
    omega

/-- 31 December of a year. -/
def yearEnd (year : Int) (h : minYear ≤ year ∧ year ≤ maxYear) : Date where
  year := year
  month := 12
  day := 31
  valid := YearMonthDay.valid_mk h (by decide) ⟨by decide, by rw [daysInMonth_december]⟩

lemma dayNumber_yearEnd (year : Int) (h : minYear ≤ year ∧ year ≤ maxYear) :
    (yearEnd year h).dayNumber = newYearsDay (year + 1) - 1 := by
  have hdecember := dayNumber_december (d := yearEnd year h) rfl
  simp only [yearEnd] at hdecember ⊢
  omega

/-- A date that comes back every year, from the first 28 days of a month. -/
def yearly (year month day : Int) (hy : minYear ≤ year ∧ year ≤ maxYear)
    (h : (1 ≤ month ∧ month ≤ 12) ∧ 1 ≤ day ∧ day ≤ 28) : Date where
  year := year
  month := month
  day := day
  valid := YearMonthDay.valid_mk hy h.1
    ⟨h.2.1, Int.le_trans h.2.2 (daysInMonth_bounds year h.1.1 h.1.2).1⟩

/-- The first day of a year is 1 January. -/
lemma dayNumber_eq_newYearsDay_iff {d : Date} :
    d.dayNumber = newYearsDay d.year ↔ d.month = 1 ∧ d.day = 1 := by
  constructor
  · intro h
    have hfirst : d = yearly d.year 1 1 d.valid.1 (by decide) := by
      refine dayNumber_inj ?_
      rw [h, dayNumber_january rfl]
      exact (Int.add_sub_cancel _ _).symm
    rw [hfirst]
    exact ⟨rfl, rfl⟩
  · rintro ⟨hmonth, hday⟩
    rw [dayNumber_january hmonth]
    omega

end Date

end BusinessCalendar
