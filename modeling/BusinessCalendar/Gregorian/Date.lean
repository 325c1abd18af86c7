import BusinessCalendar.Diagnostic.Cause
import BusinessCalendar.Gregorian.DayNumber
import BusinessCalendar.Text.Digits
import BusinessCalendar.Weekday

/-!
# Representable dates

The line of days goes on for ever; a `Date` is confined to 1 January of year 1 up to 31 December
of year 9999, that is to the days 0 to 3652058.

* `Date.ofDay`, `Date.dayNumber` — a date and its day, inverse to each other
  (`Date.dayNumber_ofDay`, `Date.ofDay_dayNumber`).
* `Date.atDay` — the date of a day, or the reason why there is none.
* `checkYear`, `checkMonth`, `checkDayOfMonth`, `checkDayNumber` — the limits, each with its cause.
-/

namespace BusinessCalendar

/-! ## Limits -/

def minYear : Int := 1

def maxYear : Int := 9999

/-- The first representable day, 1 January of year 1. -/
def minDay : Int := 0

/-- The last representable day, 31 December of year 9999. -/
def maxDay : Int := 3652058

/-- A day that a date can stand for. -/
def Representable (n : Int) : Prop := minDay ≤ n ∧ n ≤ maxDay

instance (n : Int) : Decidable (Representable n) := by unfold Representable; infer_instance

namespace YearMonthDay

/-- A proper date of a representable year. -/
def Valid (d : YearMonthDay) : Prop := (minYear ≤ d.year ∧ d.year ≤ maxYear) ∧ d.Proper

instance (d : YearMonthDay) : Decidable d.Valid := by unfold Valid; infer_instance

/-- The date as `2024-02-29`. -/
def iso (d : YearMonthDay) : String :=
  Text.zeroPadded 4 d.year ++ "-" ++ Text.zeroPadded 2 d.month ++ "-" ++ Text.zeroPadded 2 d.day

theorem valid_mk {y m d : Int} (hy : minYear ≤ y ∧ y ≤ maxYear) (hm : 1 ≤ m ∧ m ≤ 12)
    (hd : 1 ≤ d ∧ d ≤ daysInMonth y m) : (mk y m d).Valid :=
  ⟨hy, hm, hd⟩

/-- The year of a day is representable exactly when the day is. -/
theorem ofDay_year_iff (n : Int) :
    (minYear ≤ (ofDay n).year ∧ (ofDay n).year ≤ maxYear) ↔ Representable n := by
  have h := dayNumber_bounds (ofDay_proper n)
  rw [dayNumber_ofDay] at h
  have hmono := @daysBeforeYear_mono
  have h₁ : daysBeforeYear 1 = 0 := by decide
  have h₂ : daysBeforeYear 10000 = 3652059 := by decide
  simp only [minYear, maxYear, Representable, minDay, maxDay]
  constructor
  · rintro ⟨hlow, hhigh⟩
    have := hmono hlow
    have := hmono (show (ofDay n).year + 1 ≤ 10000 by omega)
    omega
  · rintro ⟨hlow, hhigh⟩
    constructor
    · refine Int.not_lt.1 fun hlt => ?_
      have := hmono (show (ofDay n).year + 1 ≤ 1 by omega)
      omega
    · refine Int.not_lt.1 fun hlt => ?_
      have := hmono (show 10000 ≤ (ofDay n).year by omega)
      omega

/-- The calendar date of a representable day is valid. -/
theorem ofDay_valid {n : Int} (h : Representable n) : (ofDay n).Valid :=
  ⟨(ofDay_year_iff n).2 h, ofDay_proper n⟩

/-- A valid date stands for a representable day. -/
theorem representable_dayNumber {d : YearMonthDay} (h : d.Valid) : Representable d.dayNumber := by
  rw [← ofDay_year_iff, ofDay_dayNumber h.2]
  exact h.1

end YearMonthDay

/-- A date between 1 January of year 1 and 31 December of year 9999. -/
structure Date extends YearMonthDay where
  valid : toYearMonthDay.Valid
deriving DecidableEq

namespace Date

instance : Repr Date := ⟨fun d p => reprPrec d.toYearMonthDay p⟩

@[ext] theorem ext {d e : Date} (h : d.toYearMonthDay = e.toYearMonthDay) : d = e := by
  cases d; cases e; cases h; rfl

def ofDay (n : Int) (h : Representable n) : Date :=
  { toYearMonthDay := YearMonthDay.ofDay n, valid := YearMonthDay.ofDay_valid h }

def dayNumber (d : Date) : Int := d.toYearMonthDay.dayNumber

theorem representable_dayNumber (d : Date) : Representable d.dayNumber :=
  YearMonthDay.representable_dayNumber d.valid

@[simp] theorem dayNumber_ofDay (n : Int) (h : Representable n) : (ofDay n h).dayNumber = n :=
  YearMonthDay.dayNumber_ofDay n

@[simp] theorem ofDay_dayNumber (d : Date) (h : Representable d.dayNumber) :
    ofDay d.dayNumber h = d :=
  Date.ext (YearMonthDay.ofDay_dayNumber d.valid.2)

/-- Dates are told apart by their days. -/
theorem dayNumber_inj {d e : Date} (h : d.dayNumber = e.dayNumber) : d = e :=
  Date.ext (YearMonthDay.eq_of_dayNumber_eq d.valid.2 e.valid.2 h)

def weekday (d : Date) : Weekday := Weekday.onDay d.dayNumber

/-- The date as `2024-02-29`. -/
def iso (d : Date) : String := d.toYearMonthDay.iso

/-- The date of a day; a day that is not representable is the reported cause. -/
def atDay (n : Int) : Except Cause Date :=
  if h : Representable n then .ok (ofDay n h)
  else .error (.dayNumberOutOfRange n minDay maxDay)

theorem atDay_eq_ok_iff {n : Int} {d : Date} : atDay n = .ok d ↔ d.dayNumber = n := by
  rw [atDay]
  split
  · rename_i h
    constructor
    · intro heq
      cases heq
      exact dayNumber_ofDay n h
    · rintro rfl
      rw [ofDay_dayNumber]
  · rename_i h
    constructor
    · intro heq
      cases heq
    · rintro rfl
      exact absurd d.representable_dayNumber h

@[simp] theorem atDay_dayNumber (d : Date) : atDay d.dayNumber = .ok d :=
  atDay_eq_ok_iff.2 rfl

/-- The date of a year, a month and a day, if there is one. -/
def of? (d : YearMonthDay) : Option Date :=
  if h : d.Valid then some { toYearMonthDay := d, valid := h } else none

end Date

/-! ## Checked numbers -/

/-- A year must lie between 1 and 9999. -/
def checkYear (argument : String) (n : Numeral) : Except Cause Int :=
  if minYear ≤ n.value ∧ n.value ≤ maxYear then .ok n.value
  else .error (.yearOutOfRange argument n)

/-- A month must lie between 1 and 12. -/
def checkMonth (argument : String) (n : Numeral) : Except Cause Int :=
  if 1 ≤ n.value ∧ n.value ≤ 12 then .ok n.value
  else .error (.monthOutOfRange argument n)

/-- A day number must be representable. -/
def checkDayNumber (n : Numeral) : Except Cause Int :=
  if Representable n.value then .ok n.value
  else .error (.dayNumberOutOfRange n minDay maxDay)

/-- A day must exist in its month. -/
def checkDayOfMonth (year month : Int) (n : Numeral) : Except Cause Int :=
  if 1 ≤ n.value ∧ n.value ≤ daysInMonth year month then .ok n.value
  else .error (.dayOutOfRange year month n (daysInMonth year month))

end BusinessCalendar
