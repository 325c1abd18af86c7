import BusinessCalendar.Proofs.Week.WeekOne

/-!
# How far the numbers of weeks go

The numbers of a year end with 52 or 53, as a rule.  **A week 54 is one day long**: 371 days have to
pass before it, six of them in December, if week 1 ends on 1 January, and the other 365 in a leap
year (`WeekConvention.eq_54_iff`).  The days of January before week 1 have the last number of the
year before, and a rule that leaves such days leaves no room for a week 54
(`WeekConvention.weekOfDay?_lastWeek`).  In the first year there is no year before, and those days
have no number; `weekOfYear_extent` puts this on the calls.
-/

namespace BusinessCalendar

lemma WeekRule.minDays_eq_one_iff {r : WeekRule} : r.minDays = 1 ↔ r = .firstDay := by
  cases r <;> decide

/-- A week ends on a day exactly when the next day starts one. -/
lemma Weekday.onDay_eq_pred_iff {n : Int} {w : Weekday} :
    onDay n = w.pred ↔ onDay (n + 1) = w := by
  have hindex : w.pred.index = (w.index + 6) % 7 := index_onDay _
  have hbounds := w.index_bounds
  rw [onDay_eq_iff, onDay_eq_iff, hindex]
  omega

namespace WeekConvention

variable {c : WeekConvention} {year n week : Int}

/-! ## Days that week 1 of their year has reached -/

/-- The numbers run from 1 on, and at most to 54. -/
lemma weekOfDay?_bounds (hyear : newYearsDay year ≤ n ∧ n < newYearsDay (year + 1))
    (hone : c.startOfWeek year 1 ≤ n) (hweek : c.weekOfDay? n = some week) :
    1 ≤ week ∧ week ≤ 54 := by
  have hbounds := c.startOfWeek_one_bounds year
  have hlength := newYearsDay_step year
  rw [weekOfDay?_eq hyear hone, Option.some.injEq] at hweek
  omega

/-- **Week 54 is the last day of a leap year that starts on the last day of a week, where one day is
enough for week 1.** -/
theorem eq_54_iff (hyear : newYearsDay year ≤ n ∧ n < newYearsDay (year + 1))
    (hone : c.startOfWeek year 1 ≤ n) (hweek : c.weekOfDay? n = some week) :
    week = 54 ↔ c.rule = .firstDay ∧ n = newYearsDay (year + 1) - 1 ∧ isLeap year = true ∧
      Weekday.onDay (newYearsDay year) = c.firstWeekday.pred := by
  have hstart := c.startOfWeek_one_minDays year
  have hrule := c.rule.minDays_bounds
  have hlength := newYearsDay_step year
  rw [weekOfDay?_eq hyear hone, Option.some.injEq] at hweek
  rw [← WeekRule.minDays_eq_one_iff, isLeap_iff_newYearsDay, Weekday.onDay_eq_pred_iff,
    c.onDay_eq_firstWeekday_iff year]
  omega

/-! ## Days before week 1 of their year -/

/-- Where a year leaves days before its week 1, the year before ends in week 52 or 53. -/
lemma weekOfDay?_lastWeek (hjanuary : newYearsDay year < c.startOfWeek year 1) :
    ∃ week, c.weekOfDay? (newYearsDay year - 1) = some week ∧ (week = 52 ∨ week = 53) := by
  have hstart := c.startOfWeek_one_minDays (year - 1)
  have hnext := c.startOfWeek_one_minDays year
  have hrule := c.rule.minDays_bounds
  have hlength := newYearsDay_step (year - 1)
  rw [Int.sub_add_cancel] at hlength
  have hdecember : newYearsDay (year - 1) ≤ newYearsDay year - 1 ∧
      newYearsDay year - 1 < newYearsDay (year - 1 + 1) := by
    rw [Int.sub_add_cancel]
    omega
  refine ⟨_, weekOfDay?_eq hdecember (by omega), ?_⟩
  -- the rule asks for two days at least, so week 1 started at most five days before 1 January
  omega

lemma exists_weekOfDay?_before (hfirst : minYear < year)
    (hyear : newYearsDay year ≤ n ∧ n < newYearsDay (year + 1)) (hone : n < c.startOfWeek year 1) :
    ∃ week, c.weekOfDay? n = some week ∧ (week = 52 ∨ week = 53) ∧
      c.weekOfDay? (newYearsDay year - 1) = some week := by
  obtain ⟨week, hlast, hweek⟩ := weekOfDay?_lastWeek (Int.lt_of_le_of_lt hyear.1 hone)
  refine ⟨week, ?_, hweek, hlast⟩
  rw [weekOfDay?_before hfirst hyear hone, hlast]

/-! ## All days -/

/-- The number of a day is at most 53, but for the one day of week 54. -/
lemma weekOfDay?_extent (hfirst : minYear ≤ year)
    (hyear : newYearsDay year ≤ n ∧ n < newYearsDay (year + 1)) (hweek : c.weekOfDay? n = some week) :
    ((1 ≤ week ∧ week ≤ 53) ∨ week = 54) ∧
      (week = 54 ↔ c.rule = .firstDay ∧ n = newYearsDay (year + 1) - 1 ∧ isLeap year = true ∧
        Weekday.onDay (newYearsDay year) = c.firstWeekday.pred) := by
  rcases Int.lt_or_le n (c.startOfWeek year 1) with hone | hone
  case inl =>
    have hlater : minYear < year := by
      refine lt_of_le_of_ne hfirst fun h => ?_
      rw [(weekOfDay?_eq_none_iff hfirst hyear).2 ⟨h.symm, hone⟩] at hweek
      cases hweek
    obtain ⟨number, hnumber, hlast, -⟩ := exists_weekOfDay?_before hlater hyear hone
    obtain rfl : week = number := Option.some.inj (hweek.symm.trans hnumber)
    have hjanuary := c.startOfWeek_one_bounds year
    have hlength := newYearsDay_step year
    refine ⟨by omega, iff_of_false (by omega) ?_⟩
    -- such a day is in the first week of January
    rintro ⟨-, hdecember, -⟩
    omega
  case inr =>
    have hbounds := weekOfDay?_bounds hyear hone hweek
    exact ⟨by omega, eq_54_iff hyear hone hweek⟩

end WeekConvention

/-! ## The calls -/

namespace Call

variable {c : WeekConvention} {v : Moment}

/-- The report on a date without a number names the date and the move to the day before. -/
lemma fault_before_weekOne (date : String) :
    Cause.fault (.resultOutOfRange date (-1 : Int)) = .cause (.resultOutOfRange date (-1 : Int)) :=
  Cause.fault_eq (Cause.writable_resultOutOfRange_iff.2 (by decide))

/-- A date has no number for one reason. -/
lemma weekOfYear_eq_error_iff {f : Fault} :
    weekOfYear (.moment v) (.convention c) = .error f ↔
      c.weekOfDay? v.dayNumber = none ∧ f = .cause (.resultOutOfRange v.date.iso (-1 : Int)) := by
  simp only [weekOfYear, Value.requireConvention_convention, Value.requireDate_moment, ok_bind,
    WeekConvention.weekOfYear, Moment.dayNumber]
  cases c.weekOfDay? v.date.dayNumber with
  | some n => simp
  | none => simp [fault_before_weekOne, eq_comm]

end Call

/-- **The numbers of weeks run from 1 to 53, and to 54 on one day of some years.**  A date has none,
and is refused, exactly when it is in year 1 before its week 1.  Week 54 is 31 December of a leap year
that starts on the last day of a week, where one day is enough for week 1.  In every later year a
date before week 1 has the number of the 31 December before it, which is 52 or 53. -/
theorem weekOfYear_extent (c : WeekConvention) (v : Moment) :
    ((∃ f, Call.weekOfYear (.moment v) (.convention c) = .error f ∧ f.kind = .range) ↔
      v.date.year = 1 ∧ c.PrecedesWeekOne v.date) ∧
    (¬(v.date.year = 1 ∧ c.PrecedesWeekOne v.date) →
      ∃ week, Call.weekOfYear (.moment v) (.convention c) = .ok week ∧
        ((1 ≤ week ∧ week ≤ 53) ∨ week = 54) ∧
        (week = 54 ↔ c.rule = .firstDay ∧ (v.date.month = 12 ∧ v.date.day = 31) ∧
          isLeap v.date.year = true ∧
          Weekday.onDay (newYearsDay v.date.year) = c.firstWeekday.pred)) ∧
    (∀ (before : Int) (h : 1 ≤ before ∧ before ≤ 9999), v.date.year = before + 1 →
      c.PrecedesWeekOne v.date →
        ∃ week, Call.weekOfYear (.moment v) (.convention c) = .ok week ∧
          (week = 52 ∨ week = 53) ∧
          Call.weekOfYear (.date (.yearEnd before h)) (.convention c) = .ok week) := by
  have hyear : newYearsDay v.date.year ≤ v.dayNumber ∧
      v.dayNumber < newYearsDay (v.date.year + 1) :=
    v.date.dayNumber_mem_year
  have hfirst := v.date.valid.1.1
  have hnone := WeekConvention.weekOfDay?_eq_none_iff (c := c) hfirst hyear
  simp only [WeekConvention.precedesWeekOne_iff, ← Date.dayNumber_eq_lastDay_iff]
  refine ⟨?_, fun hnumbered => ?_, fun before h heq hone => ?_⟩
  · simp only [Call.weekOfYear_eq_error_iff, hnone]
    constructor
    · rintro ⟨f, ⟨hday, -⟩, -⟩
      exact hday
    · intro hday
      exact ⟨_, ⟨hday, rfl⟩, rfl⟩
  · obtain ⟨week, hweek⟩ := Option.ne_none_iff_exists'.1 fun h => hnumbered (hnone.1 h)
    exact ⟨week, Call.weekOfYear_eq_ok_iff.2 hweek,
      WeekConvention.weekOfDay?_extent hfirst hyear hweek⟩
  · have hlater : minYear < v.date.year := by
      rw [heq]
      exact Int.lt_add_one_of_le h.1
    obtain ⟨week, hweek, hnumber, hlast⟩ :=
      WeekConvention.exists_weekOfDay?_before hlater hyear hone
    have hend : (Moment.ofDate (.yearEnd before h)).dayNumber = newYearsDay v.date.year - 1 := by
      rw [heq]
      exact Date.dayNumber_yearEnd before h
    exact ⟨week, Call.weekOfYear_eq_ok_iff.2 hweek, hnumber,
      Call.weekOfYear_eq_ok_iff.2 (by rw [hend, hlast])⟩

/-- 31 December 2000 is alone in week 54, counted from Sunday on; 1 January 2021 is in week 53 of
2020 under the ISO convention; and 1 January of year 1, a Monday, comes before the first full week
from Tuesday on. -/
theorem weekOfYear_extent_edges :
    Call.weekOfYear (.date (.yearEnd 2000 (by decide))) (.convention .sundayFirstDay) = .ok 54 ∧
      (∃ week, Call.weekOfYear (.date (.yearly 2021 1 1 (by decide) (by decide)))
          (.convention .iso) = .ok week ∧ (week = 52 ∨ week = 53) ∧
        Call.weekOfYear (.date (.yearEnd 2020 (by decide))) (.convention .iso) = .ok week) ∧
      ∃ f, Call.weekOfYear (.date (.yearly 1 1 1 (by decide) (by decide)))
        (.convention { firstWeekday := .tuesday, rule := .firstFullWeek }) = .error f ∧
        f.kind = .range := by
  obtain ⟨-, hnumbered, -⟩ :=
    weekOfYear_extent .sundayFirstDay (.ofDate (.yearEnd 2000 (by decide)))
  obtain ⟨week, hweek, -, h54⟩ := hnumbered fun h => absurd h.1 (by decide)
  obtain rfl : week = 54 := h54.2 ⟨rfl, ⟨rfl, rfl⟩, by decide, by decide⟩
  obtain ⟨-, -, hbefore⟩ :=
    weekOfYear_extent .iso (.ofDate (.yearly 2021 1 1 (by decide) (by decide)))
  obtain ⟨hrefused, -, -⟩ := weekOfYear_extent { firstWeekday := .tuesday, rule := .firstFullWeek }
    (.ofDate (.yearly 1 1 1 (by decide) (by decide)))
  exact ⟨hweek, hbefore 2020 (by decide) rfl (WeekConvention.precedesWeekOne_iff.2 (by decide)),
    hrefused.2 ⟨rfl, WeekConvention.precedesWeekOne_iff.2 (by decide)⟩⟩

end BusinessCalendar
