import BusinessCalendar.Proofs.Quarter.Resolution
import BusinessCalendar.Proofs.Week.Count
import BusinessCalendar.Proofs.Week.Iso

/-!
# The calendar repeats after 400 years

400 years have 146097 days, and these are 20871 whole weeks.  So the line of days looks the same from
any day and from the day 146097 days later: the same rules apply to a year and to the year 400 years on,
and weeks and quarters start as much later as years do.  **What is known of a date is known of the date
400 years later** (`calendar_recurs`), which is why 146097 days in a row stand for all of them.

* `YearMonthDay.recurrence` — the date 400 years later; `YearMonthDay.ofDay_add_cycle` — the calendar date
  of a day, 146097 days on.
* `newYearsDay_add_cycle`, `Weekday.weekStart_add_cycle`, `Anchor.startDay_add_cycle` — where years, weeks
  and quarters start, 400 years on; everything else about them is counted from there.
-/

namespace BusinessCalendar

/-- The days of 400 years. -/
def cycleDays : Int := 146097

/-! ## Dates -/

lemma isLeap_add_cycle (y : Int) : isLeap (y + 400) = isLeap y := by
  have h4 : (y + 400) % 4 = y % 4 := by omega
  have h100 : (y + 400) % 100 = y % 100 := by omega
  have h400 : (y + 400) % 400 = y % 400 := by omega
  rw [isLeap, isLeap, h4, h100, h400]

lemma daysBeforeYear_add_cycle (y : Int) :
    daysBeforeYear (y + 400) = daysBeforeYear y + cycleDays := by
  simp only [daysBeforeYear, cycleDays]
  omega

lemma newYearsDay_add_cycle (y : Int) : newYearsDay (y + 400) = newYearsDay y + cycleDays := by
  rw [newYearsDay_eq, newYearsDay_eq, daysBeforeYear_add_cycle]

namespace YearMonthDay

/-- The same month and the same day, 400 years later. -/
def recurrence (d : YearMonthDay) : YearMonthDay := { d with year := d.year + 400 }

lemma recurrence_proper {d : YearMonthDay} (h : d.Proper) : d.recurrence.Proper := by
  rw [Proper, daysInMonth] at h ⊢
  simp only [recurrence, isLeap_add_cycle]
  exact h

lemma dayNumber_recurrence (d : YearMonthDay) :
    d.recurrence.dayNumber = d.dayNumber + cycleDays := by
  simp only [dayNumber, recurrence, isLeap_add_cycle, daysBeforeYear_add_cycle]
  omega

/-- **The calendar date 146097 days later is the same one 400 years on.** -/
theorem ofDay_add_cycle (n : Int) : ofDay (n + cycleDays) = (ofDay n).recurrence := by
  refine eq_of_dayNumber_eq (ofDay_proper _) (recurrence_proper (ofDay_proper n)) ?_
  rw [dayNumber_recurrence, dayNumber_ofDay, dayNumber_ofDay]

lemma ofDay_year_add_cycle (n : Int) : (ofDay (n + cycleDays)).year = (ofDay n).year + 400 := by
  rw [ofDay_add_cycle, recurrence]

end YearMonthDay

lemma Date.eq_recurrence {d e : Date} (h : e.dayNumber = d.dayNumber + cycleDays) :
    e.toYearMonthDay = d.toYearMonthDay.recurrence := by
  have hdate := YearMonthDay.ofDay_add_cycle d.dayNumber
  rwa [← h, dayNumber, dayNumber, YearMonthDay.ofDay_dayNumber e.valid.2,
    YearMonthDay.ofDay_dayNumber d.valid.2] at hdate

/-! ## Weeks -/

namespace Weekday

/-- 400 years are whole weeks. -/
lemma onDay_add_cycle (n : Int) : onDay (n + cycleDays) = onDay n := by
  rw [onDay_eq_onDay_iff, cycleDays]
  omega

lemma weekStart_add_cycle (w : Weekday) (n : Int) :
    w.weekStart (n + cycleDays) = w.weekStart n + cycleDays := by
  simp only [weekStart, daysBackward, cycleDays]
  omega

end Weekday

lemma IsoWeek.ofDay_add_cycle (n : Int) :
    ofDay (n + cycleDays) = { year := (ofDay n).year + 400, week := (ofDay n).week } := by
  have hthursday : thursdayOf (n + cycleDays) = thursdayOf n + cycleDays := by
    rw [thursdayOf_eq, thursdayOf_eq, Weekday.weekStart_add_cycle]
    omega
  simp only [ofDay, hthursday, YearMonthDay.ofDay_year_add_cycle, newYearsDay_add_cycle,
    Int.add_sub_add_right]

namespace WeekConvention

variable {c : WeekConvention}

lemma weekOneStart_add_cycle (n : Int) :
    c.weekOneStart (n + cycleDays) = c.weekOneStart n + cycleDays := by
  rw [weekOneStart_eq, weekOneStart_eq, ← Weekday.weekStart_add_cycle]
  congr 1
  omega

/-- **The week of a day has the same number 400 years on.**  A day of the first year that lies in no
week of it may lie in one 400 years on. -/
theorem weekOfDay?_add_cycle {n week : Int} (h : c.weekOfDay? n = some week) :
    c.weekOfDay? (n + cycleDays) = some week := by
  -- the day of a year is the same at every step of the way to the year that it is counted from
  fun_induction weekOfDay? c n with
  | case1 n year day hcounted =>
    rw [weekOfDay?, YearMonthDay.ofDay_year_add_cycle, newYearsDay_add_cycle,
      weekOneStart_add_cycle, Int.add_sub_add_right]
    rw [if_pos hcounted]
    exact h
  | case2 => cases h
  | case3 n year day hbefore hlater ih =>
    have hlater' : ¬year + 400 ≤ minYear := by
      rw [minYear] at hlater ⊢
      omega
    have hdecember : newYearsDay year + cycleDays - 1 = newYearsDay year - 1 + cycleDays := by omega
    rw [weekOfDay?, YearMonthDay.ofDay_year_add_cycle, newYearsDay_add_cycle,
      weekOneStart_add_cycle, Int.add_sub_add_right]
    rw [if_neg hbefore, if_neg hlater', hdecember]
    exact ih h

end WeekConvention

/-! ## Quarters -/

namespace Anchor

variable (a : Anchor)

lemma startDay_add_cycle (year quarter : Int) :
    a.startDay (year + 400) quarter = a.startDay year quarter + cycleDays := by
  rw [startDay, startDay, ← YearMonthDay.dayNumber_recurrence, YearMonthDay.recurrence, startYear,
    startYear, Int.add_right_comm]

lemma locate_recurrence (d : YearMonthDay) :
    a.locate d.recurrence = ((a.locate d).1 + 400, (a.locate d).2) := by
  refine Prod.ext ?_ rfl
  simp only [locate, YearMonthDay.recurrence]
  split <;> omega

end Anchor

/-- The quarter of a date 400 years later is the one that begins and ends 400 years later. -/
lemma Quarter.resolve_recurrence_iff {d e : Date} (h : e.dayNumber = d.dayNumber + cycleDays)
    {a : Anchor} {r s : Quarter} (hr : resolve d a = .ok r) :
    resolve e a = .ok s ↔
      s.index = r.index ∧ s.year = r.year + 400 ∧ s.start.dayNumber = r.start.dayNumber + cycleDays ∧
        s.stop.dayNumber = r.stop.dayNumber + cycleDays := by
  obtain ⟨hyear, hfound, hstart, hstop⟩ := resolve_eq_ok_iff.1 hr
  simp only [resolve_eq_ok_iff, Date.eq_recurrence h, a.locate_recurrence, hfound, Prod.mk.injEq,
    hstart, hstop]
  constructor
  · rintro ⟨-, ⟨hyear', hindex⟩, hstart', hstop'⟩
    rw [← hyear', ← hindex, a.startDay_add_cycle] at hstart' hstop'
    exact ⟨hindex.symm, hyear'.symm, hstart', by omega⟩
  · rintro ⟨hindex, hyear', hstart', hstop'⟩
    rw [hyear', hindex, a.startDay_add_cycle, a.startDay_add_cycle]
    exact ⟨by omega, ⟨rfl, rfl⟩, hstart', by omega⟩

/-! ## On the calls -/

/-- What is known of a moment is known of one 400 years later. -/
structure Moment.Recurs (v v' : Moment) : Prop where
  date : v'.date.year = v.date.year + 400 ∧ v'.date.month = v.date.month ∧ v'.date.day = v.date.day
  weekday : v'.date.weekday = v.date.weekday
  isoWeek : ∃ w, Call.isoWeekOf (.moment v) = .ok w ∧
    Call.isoWeekOf (.moment v') = .ok { year := w.year + 400, week := w.week }
  weekOfYear : ∀ convention week, Call.weekOfYear (.moment v) convention = .ok week →
    Call.weekOfYear (.moment v') convention = .ok week
  /-- The quarter is the only one that begins and ends 146097 days later; it is found as soon as it
  exists. -/
  quarter : ∀ definition r, Call.resolveQuarter (.moment v) definition = .ok r →
    ∀ r', Call.resolveQuarter (.moment v') definition = .ok r' ↔
      r'.index = r.index ∧ r'.year = r.year + 400 ∧
        r'.start.dayNumber = r.start.dayNumber + 146097 ∧
        r'.stop.dayNumber = r.stop.dayNumber + 146097

namespace Call

variable {v v' : Moment} (h : v'.dayNumber = v.dayNumber + cycleDays)

include h

lemma weekOfYear_recurs {convention : Value} {week : Int}
    (hweek : weekOfYear (.moment v) convention = .ok week) :
    weekOfYear (.moment v') convention = .ok week := by
  simp only [weekOfYear, Value.requireDate_moment, ok_bind, bind_eq_ok_iff, liftM_eq_ok_iff] at hweek ⊢
  obtain ⟨c, hc, hweek⟩ := hweek
  refine ⟨c, hc, ?_⟩
  rw [WeekConvention.weekOfYear] at hweek ⊢
  cases hnumber : c.weekOfDay? v.date.dayNumber with
  | none =>
    rw [hnumber] at hweek
    cases hweek
  | some k =>
    rw [hnumber] at hweek
    rw [show v'.date.dayNumber = v.date.dayNumber + cycleDays from h,
      WeekConvention.weekOfDay?_add_cycle hnumber]
    exact hweek

lemma resolveQuarter_recurs {definition : Value} {r r' : Quarter}
    (hr : resolveQuarter (.moment v) definition = .ok r) :
    resolveQuarter (.moment v') definition = .ok r' ↔
      r'.index = r.index ∧ r'.year = r.year + 400 ∧
        r'.start.dayNumber = r.start.dayNumber + cycleDays ∧
        r'.stop.dayNumber = r.stop.dayNumber + cycleDays := by
  simp only [resolveQuarter, Value.requireDate_moment, ok_bind, bind_eq_ok_iff, liftM_eq_ok_iff] at hr ⊢
  obtain ⟨a, ha, hr⟩ := hr
  simp only [ha, Except.ok.injEq, exists_eq_left']
  exact Quarter.resolve_recurrence_iff h hr

end Call

lemma Moment.recurs_of_dayNumber {v v' : Moment} (h : v'.dayNumber = v.dayNumber + cycleDays) :
    v.Recurs v' where
  date := by
    rw [Date.eq_recurrence h]
    exact ⟨rfl, rfl, rfl⟩
  weekday := by
    rw [Date.weekday, Date.weekday, show v'.date.dayNumber = v.date.dayNumber + cycleDays from h,
      Weekday.onDay_add_cycle]
  isoWeek := by
    rw [Call.isoWeekOf_moment, Call.isoWeekOf_moment, h, IsoWeek.ofDay_add_cycle]
    exact ⟨_, rfl, rfl⟩
  weekOfYear _ _ := Call.weekOfYear_recurs h
  quarter _ _ hr _ := Call.resolveQuarter_recurs h hr

/-- **The calendar repeats after 400 years.**  The day 146097 days after a date, if it is not past the
last one, is the same day of the same month 400 years on, on the same weekday.  It has the ISO week of the
date in the year 400 years on, the same week under every convention that gives the date one, and lies in
the quarter 400 years on of the one that the date resolves to, under every definition. -/
theorem calendar_recurs {v : Moment} (h : v.dayNumber + 146097 ≤ 3652058) :
    (∃ v', Call.shiftDays (.moment v) (.int 146097) = .ok v') ∧
      ∀ v' : Moment, v'.dayNumber = v.dayNumber + 146097 → v.Recurs v' := by
  refine ⟨?_, fun v' => Moment.recurs_of_dayNumber⟩
  have hlow := v.representable_dayNumber.1
  refine (Call.exists_shiftDays_iff v).2 ⟨?_, h⟩
  exact Int.le_trans hlow (Int.le_add_of_nonneg_right (by decide))

/-- The last three months of a calendar year. -/
def Quarter.fourth (year : Int) (h : minYear ≤ year ∧ year ≤ maxYear) : Quarter where
  year := year
  index := 4
  start := .yearly year 10 1 h (by decide)
  stop := .yearEnd year h

/-- The last date, from the one 400 years before. -/
theorem calendar_recurs_lastDate :
    (Date.yearEnd 9599 (by decide)).dayNumber + 146097 ≤ 3652058 ∧
      (Date.yearEnd 9999 (by decide)).weekday = (Date.yearEnd 9599 (by decide)).weekday ∧
      Call.isoWeekOf (.date (.yearEnd 9999 (by decide))) = .ok { year := 9999, week := 52 } ∧
      Call.resolveQuarter (.date (.yearEnd 9999 (by decide))) (.quarterDefinition .calendarYear) =
        .ok (.fourth 9999 (by decide)) := by
  have h : (Date.yearEnd 9599 (by decide)).dayNumber + 146097 ≤ 3652058 := by decide
  have hrecurs := (calendar_recurs (v := .ofDate (.yearEnd 9599 (by decide))) h).2
    (.ofDate (.yearEnd 9999 (by decide))) (by decide)
  obtain ⟨w, hw, hw'⟩ := hrecurs.isoWeek
  cases hw
  have hquarter : Call.resolveQuarter (.date (.yearEnd 9599 (by decide)))
      (.quarterDefinition .calendarYear) = .ok (.fourth 9599 (by decide)) := by
    refine (Call.resolveQuarter_moment rfl _).trans (liftM_eq_ok_iff.2 ?_)
    exact Quarter.resolve_eq_ok_iff.2 ⟨by decide, by decide, by decide, by decide⟩
  refine ⟨h, hrecurs.weekday, hw', ?_⟩
  exact (hrecurs.quarter _ _ hquarter _).2 ⟨rfl, rfl, by decide, by decide⟩

end BusinessCalendar
