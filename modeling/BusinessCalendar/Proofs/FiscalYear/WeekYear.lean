import BusinessCalendar.Proofs.FiscalYear.Derivation
import BusinessCalendar.Proofs.FiscalYear.Division
import BusinessCalendar.Proofs.Week.IsoConvention

/-!
# Fiscal years that follow the weeks of the calendar year

A fiscal year that is made from the day of January which a rule names starts with week 1 of the
calendar year and ends where week 1 of the next one begins (`FiscalYear.derive_namedDay`).  So its
weeks are **the weeks of the convention** (`fiscalWeeks_agree_with_weekConvention`) and, from 4 January
and with Mondays first, **the weeks of the ISO year** (`fiscalWeeks_agree_with_isoWeeks`).
-/

namespace BusinessCalendar

lemma WeekRule.sameDayNextYear_namedDay {r : WeekRule} {year : Int}
    {hy : minYear ≤ year ∧ year ≤ maxYear} (h : (r.namedDay year hy).year < maxYear) :
    (r.namedDay year hy).sameDayNextYear h = r.namedDay (year + 1) ⟨Int.le_add_one hy.1, h⟩ :=
  Date.sameDayNextYear_yearly h

namespace FiscalYear

variable {c : WeekConvention} {year : Int} {hy : minYear ≤ year ∧ year ≤ maxYear} {p : FiscalYear}

/-- **From the day that a rule names, a fiscal year runs from week 1 of its calendar year to week 1 of
the next.** -/
theorem derive_namedDay
    (hp : (derive (c.rule.namedDay year hy) (c.rule.namedDay year hy) c.firstWeekday).outcome = .ok p) :
    p.start.dayNumber = c.startOfWeek year 1 ∧
      (year < maxYear → p.lastDay + 1 = c.startOfWeek (year + 1) 1) := by
  obtain ⟨⟨hweekday, hnominal, hstart⟩, -⟩ := derive_eq_ok_iff.1 hp
  refine ⟨by rw [hstart, c.startOfWeek_one_eq_weekStart year hy], fun h => ?_⟩
  have hend := (derive_onCourse hp rfl).lastDay_succ
  simp only [hweekday, hnominal] at hend
  rw [hend h, WeekRule.sameDayNextYear_namedDay, c.startOfWeek_one_eq_weekStart]

lemma exists_derive_namedDay (h : minDay ≤ c.startOfWeek year 1) :
    ∃ p, (derive (c.rule.namedDay year hy) (c.rule.namedDay year hy) c.firstWeekday).outcome =
      .ok p := by
  rw [c.startOfWeek_one_eq_weekStart year hy] at h
  exact exists_derive _ h

/-- With Mondays first, a fiscal year from 4 January has as many weeks as the ISO year.  In year 9999
nothing is measured, and 52 weeks are right. -/
lemma weeks_eq_isoWeeksInYear
    (hp : (derive (WeekRule.firstFourDayWeek.namedDay year hy)
      (WeekRule.firstFourDayWeek.namedDay year hy) .monday).outcome = .ok p) :
    p.weeks = isoWeeksInYear year := by
  obtain ⟨hstart, hend⟩ := @derive_namedDay .iso year hy p hp
  rcases Int.lt_or_eq_of_le hy.2 with hlt | rfl
  · have hnext := IsoWeek.mondayDay_succ_year year
    have hlast := hend hlt
    rw [WeekConvention.iso_startOfWeek] at hstart hlast
    rw [lastDay] at hlast
    omega
  · have hlong := (derive_eq_ok_iff.1 hp).2
    rw [derivedLong_maxYear (Int.lt_irrefl maxYear), Except.ok.injEq] at hlong
    rw [weeks, ← hlong]
    decide

/-- Before year 9999, the first days of the next January leave room for the last week. -/
lemma exists_stop (h : year < maxYear) (hend : p.lastDay + 1 = c.startOfWeek (year + 1) 1) :
    ∃ stop, p.stop = .ok stop := by
  have hnext := c.startOfWeek_one_bounds (year + 1)
  have hlength := newYearsDay_step (year + 1)
  have hcalendar := newYearsDay_succ_le h
  exact exists_stop_iff.2 (by omega)

end FiscalYear

/-- A fiscal year with the weeks of an ISO year numbers their days alike. -/
lemma Call.fiscalWeek_eq_ok_iff_isoWeek {year week : Int} {p : FiscalYear} {v : Moment}
    (hstart : p.start.dayNumber = IsoWeek.mondayDay year 1)
    (hweeks : p.weeks = BusinessCalendar.isoWeeksInYear year) :
    fiscalWeek p (.moment v) = .ok week ↔ IsoWeek.ofDay v.dayNumber = { year, week } := by
  rw [fiscalWeek_eq_ok_iff, FiscalYear.HoldsDay, FiscalYear.lastDay, hweeks, hstart,
    IsoWeek.ofDay_eq_iff, IsoWeek.mondayDay_eq_add year week]
  omega

/-- **The weeks of a fiscal year are the weeks of a convention.**  A fiscal year that is made from the
day of January which a rule names starts with week 1 of the year under the convention of that rule
and the same first weekday; and its dates, but for those in the December before, have the same week
in both, the first days of the next January included. -/
theorem fiscalWeeks_agree_with_weekConvention (y : Int) (hy : 1 ≤ y ∧ y ≤ 9998) (r : WeekRule)
    (firstWeekday : Value) (p : FiscalYear)
    (hp : (Call.fiscalYear (.date (r.namedDay y ⟨hy.1, Int.le_add_one hy.2⟩)) firstWeekday).outcome =
      .ok p) :
    ∃ c, Call.weekConvention firstWeekday (.number (.rule r)) = .ok c ∧
      Call.firstDateOfWeek (.int y) (.int 1) (.convention c) = .ok p.start ∧
      ∃ stop, p.stop = .ok stop ∧
        ∀ v : Moment, v.Between p.start stop → y ≤ v.date.year →
          ∃ week, Call.fiscalWeek p (.moment v) = .ok week ∧
            Call.weekOfYear (.moment v) (.convention c) = .ok week := by
  have hyear : minYear ≤ y ∧ y ≤ maxYear := ⟨hy.1, Int.le_add_one hy.2⟩
  obtain ⟨w, hw, hderive⟩ := Call.fiscalYear_eq_ok_iff.1 hp
  let c : WeekConvention := { firstWeekday := w, rule := r }
  obtain ⟨hstart, hend⟩ := @FiscalYear.derive_namedDay c y hyear p hderive
  have hlast := hend (Int.lt_add_one_of_le hy.2)
  refine ⟨c, ?_, ?_, ?_⟩
  · rw [Call.weekConvention, hw, ok_bind]
    rfl
  · exact (Call.firstDateOfWeek_eq_ok_iff_hasWeek (y := .plain y) (w := .plain 1) hyear).2
      ⟨⟨Int.le_refl 1, c.startOfWeek_one_lt y⟩, hstart⟩
  · obtain ⟨stop, hstop⟩ := FiscalYear.exists_stop (Int.lt_add_one_of_le hy.2) hlast
    refine ⟨stop, hstop, fun v hv hnew => ?_⟩
    rw [Moment.Between, FiscalYear.stop_eq_ok_iff.1 hstop] at hv
    have hlow := Date.le_year_iff.1 hnew
    refine ⟨_, Call.fiscalWeek_eq_ok_iff.2 ⟨hv, rfl⟩, Call.weekOfYear_eq_ok_iff.2 ?_⟩
    rw [hstart] at hv ⊢
    exact WeekConvention.weekOfDay?_eq_of_lt_next hy.1 ⟨hlow, hv.1⟩ (.inr (by omega))

/-- Full weeks from Monday on. -/
def WeekConvention.fullWeeks : WeekConvention := { firstWeekday := .monday, rule := .firstFullWeek }

/-- Sunday, 3 January 2021, is still in week 52 of 2020, counted in full weeks from Monday on. -/
theorem fiscalWeeks_agree_with_weekConvention_january :
    ∃ p, (Call.fiscalYear (.date (WeekRule.firstFullWeek.namedDay 2020 (by decide)))
        (.weekday .monday)).outcome = .ok p ∧
      Call.firstDateOfWeek (.int 2020) (.int 1) (.convention .fullWeeks) = .ok p.start ∧
      Call.fiscalWeek p (.date ⟨⟨2021, 1, 3⟩, by decide⟩) = .ok 52 ∧
      Call.weekOfYear (.date ⟨⟨2021, 1, 3⟩, by decide⟩) (.convention .fullWeeks) = .ok 52 := by
  have hone : WeekConvention.fullWeeks.startOfWeek 2020 1 = 737429 := by decide
  have hnext : WeekConvention.fullWeeks.startOfWeek (2020 + 1) 1 = 737793 := by decide
  obtain ⟨p, hderive⟩ :=
    @FiscalYear.exists_derive_namedDay .fullWeeks 2020 (by decide) (by rw [hone]; decide)
  have hp : (Call.fiscalYear (.date (WeekRule.firstFullWeek.namedDay 2020 (by decide)))
      (.weekday .monday)).outcome = .ok p :=
    Call.fiscalYear_eq_ok_iff.2 ⟨.monday, rfl, hderive⟩
  obtain ⟨c, hc, hfirst, stop, hstop, hdays⟩ :=
    fiscalWeeks_agree_with_weekConvention 2020 (by decide) .firstFullWeek (.weekday .monday) p hp
  obtain rfl : c = .fullWeeks := Except.ok.inj (hc.symm.trans rfl)
  obtain ⟨hstart, hend⟩ := @FiscalYear.derive_namedDay .fullWeeks 2020 (by decide) p hderive
  have hlast := hend (by decide)
  rw [hone] at hstart
  rw [hnext] at hlast
  have hsunday : (Moment.ofDate ⟨⟨2021, 1, 3⟩, by decide⟩).dayNumber = 737792 := by decide
  have hbetween : (Moment.ofDate ⟨⟨2021, 1, 3⟩, by decide⟩).Between p.start stop := by
    rw [Moment.Between, FiscalYear.stop_eq_ok_iff.1 hstop, hsunday]
    omega
  obtain ⟨week, hfiscal, hnumber⟩ := hdays _ hbetween (by decide)
  obtain rfl : week = 52 := by
    rw [← (Call.fiscalWeek_eq_ok_iff.1 hfiscal).2, hstart, hsunday]
    decide
  exact ⟨p, hp, hfirst, hfiscal, hnumber⟩

/-- **The weeks of a fiscal year are ISO weeks.**  With Mondays first, a fiscal year can be made from
4 January of every year.  It has as many weeks as the ISO year, and its dates are those of the ISO
year, each in the same week. -/
theorem fiscalWeeks_agree_with_isoWeeks (y : Int) (hy : 1 ≤ y ∧ y ≤ 9999) :
    ∃ p, (Call.fiscalYear (.date (.yearly y 1 4 hy (by decide)))
        (.weekday .monday)).outcome = .ok p ∧
      Call.isoWeeksInYear (.int y) = .ok p.weeks ∧
      ∀ v : Moment, ∃ w, Call.isoWeekOf (.moment v) = .ok w ∧
        ((∃ week, Call.fiscalWeek p (.moment v) = .ok week) ↔ w.year = y) ∧
        (w.year = y → Call.fiscalWeek p (.moment v) = .ok w.week) := by
  have hmonday := IsoWeek.mondayDay_representable hy ⟨Int.le_refl 1, one_le_isoWeeksInYear y⟩
  rw [← WeekConvention.iso_startOfWeek] at hmonday
  obtain ⟨p, hp⟩ := @FiscalYear.exists_derive_namedDay .iso y hy hmonday.1
  have hweeks := FiscalYear.weeks_eq_isoWeeksInYear hp
  have hstart := (FiscalYear.derive_namedDay hp).1
  rw [WeekConvention.iso_startOfWeek] at hstart
  refine ⟨p, Call.fiscalYear_eq_ok_iff.2 ⟨.monday, rfl, hp⟩, ?_, fun v => ?_⟩
  · rw [hweeks]
    exact Call.isoWeeksInYear_eq_ok (y := .plain y) hy
  · have hcall := fun week => @Call.fiscalWeek_eq_ok_iff_isoWeek y week p v hstart hweeks
    refine ⟨_, Call.isoWeekOf_moment v, ⟨?_, ?_⟩, ?_⟩
    · rintro ⟨week, hok⟩
      rw [(hcall week).1 hok]
    · rintro rfl
      exact ⟨_, (hcall _).2 rfl⟩
    · rintro rfl
      exact (hcall _).2 rfl

/-- The last ISO year: 3 January 9999 is not in it, and 31 December is. -/
theorem fiscalWeeks_agree_with_isoWeeks_lastYear :
    ∃ p, (Call.fiscalYear (.date (.yearly 9999 1 4 (by decide) (by decide)))
        (.weekday .monday)).outcome = .ok p ∧
      p.weeks = 52 ∧
      (¬∃ week, Call.fiscalWeek p (.date ⟨⟨9999, 1, 3⟩, by decide⟩) = .ok week) ∧
      Call.fiscalWeek p (.date ⟨⟨9999, 12, 31⟩, by decide⟩) = .ok 52 := by
  obtain ⟨p, hp, hweeks, hdays⟩ := fiscalWeeks_agree_with_isoWeeks 9999 (by decide)
  obtain ⟨before, hbefore, hyear, -⟩ := hdays (.ofDate ⟨⟨9999, 1, 3⟩, by decide⟩)
  obtain ⟨last, hlast, -, hweek⟩ := hdays (.ofDate ⟨⟨9999, 12, 31⟩, by decide⟩)
  obtain rfl : before = { year := 9998, week := 53 } := Except.ok.inj (hbefore.symm.trans rfl)
  obtain rfl : last = { year := 9999, week := 52 } := Except.ok.inj (hlast.symm.trans rfl)
  exact ⟨p, hp, Except.ok.inj (hweeks.symm.trans rfl), fun h => absurd (hyear.1 h) (by decide),
    hweek rfl⟩

end BusinessCalendar
