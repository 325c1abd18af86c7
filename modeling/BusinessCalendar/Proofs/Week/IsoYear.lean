import BusinessCalendar.Proofs.Week.Iso

/-!
# ISO years

An ISO year is a run of 52 or 53 whole weeks that ends where the next one begins, and a week that
the turn of the year cuts in two belongs to **the year that has most of its days**
(`IsoWeek.ofDay_year_eq_iff_card`).  `isoYears_adjoin` puts both on the calls.

* `IsoWeek.mondayDay_succ_year` — how far the first Mondays of two years in a row are apart.
* `IsoWeek.weekDaysIn` — the days of a week that lie in a year.
-/

namespace BusinessCalendar

/-! ## The run of ISO years -/

lemma isoWeeksInYear_cases (year : Int) : isoWeeksInYear year = 52 ∨ isoWeeksInYear year = 53 := by
  rw [isoWeeksInYear_eq]
  split
  · exact .inr rfl
  · exact .inl rfl

lemma one_le_isoWeeksInYear (year : Int) : 1 ≤ isoWeeksInYear year := by
  have := isoWeeksInYear_cases year
  omega

namespace IsoWeek

lemma mondayDay_eq_add (year week : Int) :
    mondayDay year week = mondayDay year 1 + 7 * (week - 1) := by
  rw [mondayDay_eq, mondayDay_eq]
  omega

/-- The first Mondays of two years in a row are as many weeks apart as the first year has. -/
lemma mondayDay_succ_year (year : Int) :
    mondayDay (year + 1) 1 = mondayDay year 1 + 7 * isoWeeksInYear year := by
  rw [mondayDay_next_year, mondayDay_eq_add, Int.add_sub_cancel]

/-- 28 December lies in the last week of its year. -/
lemma ofDay_december28 (year : Int) :
    ofDay (newYearsDay (year + 1) - 4) = { year, week := isoWeeksInYear year } := by
  have hweeks := isoWeeksInYear_cases year
  have hnext := thursday_mem_year (year + 1)
  rw [mondayDay_succ_year] at hnext
  rw [ofDay_eq_iff, mondayDay_eq_add]
  omega

/-! ## Weeks that the turn of the year cuts in two -/

/-- The days of a day's week, Monday = 0 to Sunday = 6, that lie in a year.  The calendar goes on
after the last date. -/
def weekDaysIn (n year : Int) : Finset Nat :=
  {i ∈ Finset.range 7 | (YearMonthDay.ofDay (Weekday.monday.weekStart n + i)).year = year}

lemma weekDaysIn_eq (n year : Int) :
    weekDaysIn n year = weekDaysOfYear (Weekday.monday.weekStart n) year := rfl

/-- **The year of a day's week is the one that has at least four days of the week.** -/
theorem ofDay_year_eq_iff_card {n year : Int} :
    (ofDay n).year = year ↔ 4 ≤ (weekDaysIn n year).card := by
  have hstep := newYearsDay_step year
  have hthursday : (ofDay n).year = year ↔
      newYearsDay year ≤ thursdayOf n ∧ thursdayOf n < newYearsDay (year + 1) :=
    YearMonthDay.ofDay_year_eq_iff
  rw [hthursday, thursdayOf_eq, weekDaysIn_eq, card_weekDaysOfYear]
  omega

end IsoWeek

namespace Call

variable {y : Int} (hy : minYear ≤ y ∧ y ≤ maxYear)

include hy

lemma firstDateOfIsoWeek_one_eq_ok_iff {d : Date} :
    firstDateOfIsoWeek (.int y) (.int 1) = .ok d ↔ d.dayNumber = IsoWeek.mondayDay y 1 :=
  @firstDateOfIsoWeek_eq_ok_iff (.plain y) (.plain 1) d hy
    ⟨Int.le_refl 1, one_le_isoWeeksInYear y⟩

lemma exists_firstDateOfIsoWeek_one :
    ∃ monday, firstDateOfIsoWeek (.int y) (.int 1) = .ok monday ∧
      monday.dayNumber = IsoWeek.mondayDay y 1 :=
  @exists_firstDateOfIsoWeek (.plain y) (.plain 1) hy ⟨Int.le_refl 1, one_le_isoWeeksInYear y⟩

end Call

/-- **ISO years adjoin, and a week belongs to the year that has most of its days.**  The first weeks
of two years in a row start as many weeks apart as the first year has, and 28 December lies in the
last of them.  The year of a date's week is the only one with four or more of the seven days, where
the days after the last date are days of year 10000. -/
theorem isoYears_adjoin :
    (∀ y : Int, 1 ≤ y → y ≤ 9998 →
      ∃ weeks this next, Call.isoWeeksInYear (.int y) = .ok weeks ∧
        Call.firstDateOfIsoWeek (.int y) (.int 1) = .ok this ∧
        Call.firstDateOfIsoWeek (.int (y + 1)) (.int 1) = .ok next ∧
        next.dayNumber = this.dayNumber + 7 * weeks) ∧
    (∀ (y : Int) (hy : 1 ≤ y ∧ y ≤ 9999),
      ∃ weeks, Call.isoWeeksInYear (.int y) = .ok weeks ∧
        Call.isoWeekOf (.date (.yearly y 12 28 hy (by decide))) =
          .ok { year := y, week := weeks }) ∧
    (∀ v : Moment, ∃ w, Call.isoWeekOf (.moment v) = .ok w ∧
      ∀ year, w.year = year ↔ 4 ≤ (IsoWeek.weekDaysIn v.dayNumber year).card) ∧
    (∀ n, maxDay < n → n ≤ maxDay + 365 → (YearMonthDay.ofDay n).year = 10000) := by
  refine ⟨fun y hy₁ hy₂ => ?_, fun y hy => ?_, fun v => ?_, fun n hlow hhigh => ?_⟩
  · have hthis : minYear ≤ y ∧ y ≤ maxYear := ⟨hy₁, Int.le_trans hy₂ (by decide)⟩
    have hnext : minYear ≤ y + 1 ∧ y + 1 ≤ maxYear :=
      ⟨Int.le_add_one hy₁, Int.add_le_add_right hy₂ 1⟩
    obtain ⟨this, hthisOk, hthisDay⟩ := Call.exists_firstDateOfIsoWeek_one hthis
    obtain ⟨next, hnextOk, hnextDay⟩ := Call.exists_firstDateOfIsoWeek_one hnext
    refine ⟨_, this, next, Call.isoWeeksInYear_eq_ok (y := .plain y) hthis, hthisOk, hnextOk, ?_⟩
    rw [hnextDay, hthisDay, IsoWeek.mondayDay_succ_year, Numeral.value_plain]
  · refine ⟨_, Call.isoWeeksInYear_eq_ok (y := .plain y) hy, ?_⟩
    have hday : (Moment.ofDate (.yearly y 12 28 hy (by decide))).dayNumber =
        newYearsDay (y + 1) - 4 := by
      rw [Moment.dayNumber_ofDate, Date.dayNumber_december rfl]
      simp only [Date.yearly]
      omega
    rw [Value.date, Call.isoWeekOf_moment, hday, IsoWeek.ofDay_december28]
    rfl
  · exact ⟨_, Call.isoWeekOf_moment v, fun year => IsoWeek.ofDay_year_eq_iff_card⟩
  · exact YearMonthDay.ofDay_year_of_maxDay_lt hlow hhigh

/-- 2020 has 53 ISO weeks, and the last of them takes the first three days of 2021. -/
theorem isoYears_adjoin_longYear :
    Call.isoWeeksInYear (.int 2020) = .ok 53 ∧
      (∃ this next, Call.firstDateOfIsoWeek (.int 2020) (.int 1) = .ok this ∧
        Call.firstDateOfIsoWeek (.int 2021) (.int 1) = .ok next ∧
        next.dayNumber = this.dayNumber + 371) ∧
      Call.isoWeekOf (.date ⟨⟨2020, 12, 28⟩, by decide⟩) = .ok { year := 2020, week := 53 } ∧
      ∃ w, Call.isoWeekOf (.date ⟨⟨2021, 1, 1⟩, by decide⟩) = .ok w ∧ w.year = 2020 := by
  obtain ⟨hyears, hlast, hmost, -⟩ := isoYears_adjoin
  have hnumber : Call.isoWeeksInYear (.int 2020) = .ok 53 := rfl
  obtain ⟨weeks, this, next, hweeks, hthis, hnext, hdays⟩ := hyears 2020 (by decide) (by decide)
  obtain rfl : weeks = 53 := Except.ok.inj (hweeks.symm.trans hnumber)
  obtain ⟨weeks, hweeks, hdecember⟩ := hlast 2020 (by decide)
  obtain rfl : weeks = 53 := Except.ok.inj (hweeks.symm.trans hnumber)
  obtain ⟨w, hw, hyear⟩ := hmost (.ofDate ⟨⟨2021, 1, 1⟩, by decide⟩)
  have hmajority : 4 ≤ (IsoWeek.weekDaysIn 737790 2020).card := by decide
  exact ⟨hnumber, ⟨this, next, hthis, hnext, hdays⟩, hdecember, w, hw, (hyear 2020).2 hmajority⟩

end BusinessCalendar
