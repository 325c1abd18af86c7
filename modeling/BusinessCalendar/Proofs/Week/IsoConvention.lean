import BusinessCalendar.Proofs.Week.Inversion
import BusinessCalendar.Proofs.Week.IsoYear

/-!
# The ISO convention and ISO weeks

Weeks under the convention of ISO 8601, Monday and four days, start where ISO weeks start
(`WeekConvention.iso_startOfWeek`), but a convention never moves a day into the next year.  **The two
numberings agree, but for the last days of December that already lie in the first ISO week of the next
year: those days are in a week 53 of their own year** (`isoConvention_agrees_with_isoWeeks`).

* `WeekConvention.weekOfDay?_iso` — the days that both number alike.
* `IsoWeek.lateDecember` — the days that they do not.
* `WeekConvention.iso_hasWeek_iff` — the weeks that a year has under the convention.
-/

namespace BusinessCalendar

/-! ## The last days of December -/

/-- A date is 29, 30 or 31 December. -/
def Date.LateDecember (d : Date) : Prop := d.month = 12 ∧ 29 ≤ d.day ∧ d.day ≤ 31

lemma Date.lateDecember_iff {d : Date} :
    d.LateDecember ↔ newYearsDay (d.year + 1) - 3 ≤ d.dayNumber := by
  rw [LateDecember]
  constructor
  · rintro ⟨hmonth, hday, -⟩
    rw [dayNumber_december hmonth]
    omega
  · intro h
    have hmonth : d.month = 12 := month_eq_december (by omega)
    have hyear := d.dayNumber_mem_year.2
    rw [dayNumber_december hmonth] at h hyear
    omega

namespace IsoWeek

variable {year week n : Int}

/-- The days of a year that lie in a week of the next one are among its last three, and 52 weeks have
passed before them. -/
lemma lateDecember (h : ofDay n = { year := year + 1, week }) (hn : n < newYearsDay (year + 1)) :
    week = 1 ∧ isoWeeksInYear year = 52 ∧ newYearsDay (year + 1) - 3 ≤ n := by
  obtain ⟨⟨hweek, -⟩, hlow, -⟩ := ofDay_eq_iff.1 h
  have hthis := thursday_mem_year year
  have hnext := thursday_mem_year (year + 1)
  have hyears := mondayDay_succ_year year
  have hweeks := isoWeeksInYear_cases year
  have hlength := newYearsDay_step year
  rw [mondayDay_eq_add] at hlow
  -- after 53 weeks the first Monday of the next year would come too late to leave days behind it
  omega

lemma ofDay_year_le (hn : n < newYearsDay (year + 1)) : (ofDay n).year ≤ year + 1 := by
  obtain ⟨⟨hweek, -⟩, hlow, -⟩ := ofDay_spec n
  have hthursday := thursday_mem_year (ofDay n).year
  have hstep := newYearsDay_step (year + 1)
  rw [mondayDay_eq_add] at hlow
  have hbefore : newYearsDay (ofDay n).year < newYearsDay (year + 1 + 1) := by omega
  exact Int.lt_add_one_iff.1 (newYearsDay_strictMono.lt_iff_lt.1 hbefore)

end IsoWeek

/-! ## Days -/

namespace WeekConvention

lemma iso_startOfWeek (year week : Int) :
    iso.startOfWeek year week = IsoWeek.mondayDay year week := by
  rw [startOfWeek, weekOneStart_eq, IsoWeek.mondayDay_eq]
  simp only [iso, WeekRule.minDays]
  rw [show newYearsDay year + 4 - 1 = newYearsDay year + 3 by omega]

variable {n : Int}

/-- A day that its ISO week does not move into the next year has the number of that week. -/
lemma weekOfDay?_iso (hfirst : minYear ≤ (IsoWeek.ofDay n).year)
    (hn : newYearsDay (IsoWeek.ofDay n).year ≤ n) :
    iso.weekOfDay? n = some (IsoWeek.ofDay n).week := by
  obtain ⟨⟨hweek₁, hweek₂⟩, hlow, hhigh⟩ := IsoWeek.ofDay_spec n
  rw [IsoWeek.mondayDay_eq_add] at hlow hhigh
  have hone : iso.startOfWeek (IsoWeek.ofDay n).year 1 ≤ n := by
    rw [iso_startOfWeek]
    omega
  have hnext : n < iso.startOfWeek ((IsoWeek.ofDay n).year + 1) 1 := by
    rw [iso_startOfWeek, IsoWeek.mondayDay_succ_year]
    omega
  rw [weekOfDay?_eq_of_lt_next hfirst ⟨hn, hone⟩ (.inr hnext), iso_startOfWeek, Option.some.injEq]
  omega

/-- A day that its ISO week moves into the next year has week 53. -/
lemma weekOfDay?_iso_lateDecember {year week : Int}
    (h : IsoWeek.ofDay n = { year := year + 1, week }) (hn : n < newYearsDay (year + 1)) :
    iso.weekOfDay? n = some 53 := by
  obtain ⟨rfl, hweeks, hlate⟩ := IsoWeek.lateDecember h hn
  obtain ⟨-, hlow, hhigh⟩ := IsoWeek.ofDay_eq_iff.1 h
  have hlength := newYearsDay_step year
  have hthis := IsoWeek.thursday_mem_year year
  have hinside : newYearsDay year ≤ n ∧ n < newYearsDay (year + 1) := ⟨by omega, hn⟩
  have hone : iso.startOfWeek year 1 ≤ n := by
    rw [iso_startOfWeek]
    omega
  rw [IsoWeek.mondayDay_succ_year, hweeks] at hlow hhigh
  rw [weekOfDay?_eq hinside hone, iso_startOfWeek, Option.some.injEq]
  omega

/-! ## Weeks -/

/-- **Under the ISO convention a year has its ISO weeks and, if it has 52 of them and the next one
starts before it ends, a week 53.** -/
theorem iso_hasWeek_iff {year week : Int} :
    (1 ≤ week ∧ iso.startOfWeek year week < newYearsDay (year + 1)) ↔
      (1 ≤ week ∧ week ≤ isoWeeksInYear year) ∨
        (week = 53 ∧ isoWeeksInYear year = 52 ∧
          IsoWeek.mondayDay (year + 1) 1 < newYearsDay (year + 1)) := by
  have hweeks := isoWeeksInYear_cases year
  have hnext := IsoWeek.thursday_mem_year (year + 1)
  have hthis := IsoWeek.thursday_mem_year year
  have hyears := IsoWeek.mondayDay_succ_year year
  have hlength := newYearsDay_step year
  rw [iso_startOfWeek, IsoWeek.mondayDay_eq_add]
  omega

end WeekConvention

/-- The first ISO week of the next year starts before this one ends exactly when a Monday falls on one
of its last three days. -/
lemma IsoWeek.mondayDay_lt_iff {year : Int} (hy : minYear ≤ year ∧ year ≤ maxYear) :
    mondayDay (year + 1) 1 < newYearsDay (year + 1) ↔
      ∃ d : Date, d.year = year ∧ d.LateDecember ∧ d.weekday = .monday := by
  have hthursday := thursday_mem_year (year + 1)
  have hlength := newYearsDay_step year
  have hmonday : mondayDay (year + 1) 1 = Weekday.monday.weekStart (newYearsDay (year + 1) + 3) := by
    rw [mondayDay_eq]
    omega
  constructor
  · intro h
    have hbegin := newYearsDay_nonneg hy.1
    have hend := newYearsDay_succ_le hy.2
    have hday : minDay ≤ mondayDay (year + 1) 1 := by omega
    obtain ⟨d, hd⟩ := (Date.exists_dayNumber_eq_iff hday).2 (by omega)
    have hyear : d.year = year := Date.year_eq_iff.2 (by omega)
    refine ⟨d, hyear, Date.lateDecember_iff.2 (by rw [hyear]; omega), ?_⟩
    rw [Date.weekday, hd, onDay_mondayDay]
  · rintro ⟨d, rfl, hlate, hday⟩
    rw [Date.lateDecember_iff] at hlate
    have hyear := d.dayNumber_mem_year.2
    rw [hmonday, (Weekday.weekStart_eq_iff _).2 ⟨hday, by omega, by omega⟩]
    exact hyear

/-- There is such a next year: 9999 ends on a Friday. -/
lemma IsoWeek.succ_le_maxYear {year : Int} (hyear : year ≤ maxYear)
    (h : mondayDay (year + 1) 1 < newYearsDay (year + 1)) : year + 1 ≤ maxYear := by
  rcases Int.lt_or_eq_of_le hyear with hlt | rfl
  · exact hlt
  · exact absurd h (by decide)

/-- A week that starts on a date under the ISO convention is an ISO week of the year, or the first
one of the next year. -/
lemma Call.firstDateOfWeek_iso_eq_ok_iff {y w : Numeral} {s : Date}
    (hy : minYear ≤ y.value ∧ y.value ≤ maxYear) :
    firstDateOfWeek (.number y) (.number w) (.convention .iso) = .ok s ↔
      ((1 ≤ w.value ∧ w.value ≤ BusinessCalendar.isoWeeksInYear y.value) ∧
          firstDateOfIsoWeek (.number y) (.number w) = .ok s) ∨
        ((w.value = 53 ∧ BusinessCalendar.isoWeeksInYear y.value = 52 ∧
            IsoWeek.mondayDay (y.value + 1) 1 < newYearsDay (y.value + 1)) ∧
          firstDateOfIsoWeek (.int (y.value + 1)) (.int 1) = .ok s) := by
  rw [firstDateOfWeek_eq_ok_iff_hasWeek hy, WeekConvention.iso_hasWeek_iff,
    WeekConvention.iso_startOfWeek, or_and_right]
  refine or_congr (and_congr_right fun hw => ?_) (and_congr_right fun hlate => ?_)
  · rw [firstDateOfIsoWeek_eq_ok_iff hy hw]
  · obtain ⟨hw, hweeks, hbegins⟩ := hlate
    have hnext : minYear ≤ y.value + 1 ∧ y.value + 1 ≤ maxYear :=
      ⟨Int.le_add_one hy.1, IsoWeek.succ_le_maxYear hy.2 hbegins⟩
    rw [firstDateOfIsoWeek_one_eq_ok_iff hnext, IsoWeek.mondayDay_succ_year,
      IsoWeek.mondayDay_eq_add, hw, hweeks]
    omega

/-- **The ISO convention agrees with ISO weeks, but for the last days of December.**  A date that its
ISO week does not move into the next year has the number of that week.  The others are 29, 30 or
31 December, in week 1 of the next ISO year, and have week 53.  The ISO weeks of a year start on the
same dates either way.  The only other week that a year has is a week 53, in a year of 52 ISO weeks
with a Monday on 29, 30 or 31 December: it starts where the next ISO year does. -/
theorem isoConvention_agrees_with_isoWeeks :
    (∀ v : Moment, ∃ w, Call.isoWeekOf (.moment v) = .ok w ∧
      (w.year ≤ v.date.year → Call.weekOfYear (.moment v) (.convention .iso) = .ok w.week) ∧
      (v.date.year < w.year →
        w = { year := v.date.year + 1, week := 1 } ∧ v.date.LateDecember ∧
          Call.weekOfYear (.moment v) (.convention .iso) = .ok 53)) ∧
    (∀ y : Numeral, 1 ≤ y.value → y.value ≤ 9999 →
      ∃ weeks, Call.isoWeeksInYear (.number y) = .ok weeks ∧
        (∀ w : Numeral, 1 ≤ w.value → w.value ≤ weeks →
          ∃ monday, Call.firstDateOfWeek (.number y) (.number w) (.convention .iso) = .ok monday ∧
            Call.firstDateOfIsoWeek (.number y) (.number w) = .ok monday) ∧
        (∀ w : Numeral, ¬(1 ≤ w.value ∧ w.value ≤ weeks) →
          ((∃ s, Call.firstDateOfWeek (.number y) (.number w) (.convention .iso) = .ok s) ↔
            w.value = 53 ∧ weeks = 52 ∧
              ∃ d : Date, d.year = y.value ∧ d.LateDecember ∧ d.weekday = .monday) ∧
          ∀ s, Call.firstDateOfWeek (.number y) (.number w) (.convention .iso) = .ok s →
            Call.firstDateOfIsoWeek (.int (y.value + 1)) (.int 1) = .ok s)) := by
  refine ⟨fun v => ⟨_, Call.isoWeekOf_moment v, fun hyear => ?_, fun hyear => ?_⟩,
    fun y hy₁ hy₂ => ?_⟩
  · have hthursday := IsoWeek.thursdayOf_representable v.representable_dayNumber
    have hfirst := ((YearMonthDay.ofDay_year_iff _).2 hthursday).1
    rw [Call.weekOfYear_eq_ok_iff]
    exact WeekConvention.weekOfDay?_iso hfirst (Date.le_year_iff.1 hyear)
  · have hend := v.date.dayNumber_mem_year.2
    have hnext : (IsoWeek.ofDay v.dayNumber).year = v.date.year + 1 :=
      Int.le_antisymm (IsoWeek.ofDay_year_le hend) hyear
    have hweek : IsoWeek.ofDay v.dayNumber =
        { year := v.date.year + 1, week := (IsoWeek.ofDay v.dayNumber).week } := by
      rw [← hnext]
    obtain ⟨hone, -, hlate⟩ := IsoWeek.lateDecember hweek hend
    refine ⟨by rw [hweek, hone], Date.lateDecember_iff.2 hlate, Call.weekOfYear_eq_ok_iff.2 ?_⟩
    exact WeekConvention.weekOfDay?_iso_lateDecember hweek hend
  · have hy : minYear ≤ y.value ∧ y.value ≤ maxYear := ⟨hy₁, hy₂⟩
    refine ⟨_, Call.isoWeeksInYear_eq_ok hy, fun w hw₁ hw₂ => ?_, fun w hw => ?_⟩
    · obtain ⟨monday, hmonday, -⟩ := Call.exists_firstDateOfIsoWeek hy ⟨hw₁, hw₂⟩
      exact ⟨monday, (Call.firstDateOfWeek_iso_eq_ok_iff hy).2 (.inl ⟨⟨hw₁, hw₂⟩, hmonday⟩), hmonday⟩
    · simp only [Call.firstDateOfWeek_iso_eq_ok_iff hy, hw, false_and, false_or,
        ← IsoWeek.mondayDay_lt_iff hy]
      refine ⟨⟨fun ⟨s, hlate, _⟩ => hlate, fun hlate => ?_⟩, fun s hs => hs.2⟩
      have hnext : minYear ≤ y.value + 1 ∧ y.value + 1 ≤ maxYear :=
        ⟨Int.le_add_one hy.1, IsoWeek.succ_le_maxYear hy.2 hlate.2.2⟩
      obtain ⟨s, hs, -⟩ := Call.exists_firstDateOfIsoWeek_one hnext
      exact ⟨s, hlate, hs⟩

def Date.lastMonday2024 : Date := { year := 2024, month := 12, day := 30, valid := by decide }

/-- Monday, 30 December 2024, starts week 1 of the ISO year 2025 and week 53 under the convention. -/
theorem isoConvention_agrees_with_isoWeeks_lateDecember :
    Call.isoWeekOf (.date .lastMonday2024) = .ok { year := 2025, week := 1 } ∧
      Call.weekOfYear (.date .lastMonday2024) (.convention .iso) = .ok 53 ∧
      (∃ monday, Call.firstDateOfWeek (.int 2024) (.int 52) (.convention .iso) = .ok monday ∧
        Call.firstDateOfIsoWeek (.int 2024) (.int 52) = .ok monday) ∧
      ∃ s, Call.firstDateOfWeek (.int 2024) (.int 53) (.convention .iso) = .ok s ∧
        Call.firstDateOfIsoWeek (.int 2025) (.int 1) = .ok s := by
  obtain ⟨hdays, hyears⟩ := isoConvention_agrees_with_isoWeeks
  obtain ⟨w, hw, -, hlate⟩ := hdays (.ofDate .lastMonday2024)
  have hweek : Call.isoWeekOf (.date .lastMonday2024) = .ok { year := 2025, week := 1 } := by decide
  obtain rfl : w = { year := 2025, week := 1 } := Except.ok.inj (hw.symm.trans hweek)
  obtain ⟨weeks, hweeks, hiso, hother⟩ := hyears (.plain 2024) (by decide) (by decide)
  obtain rfl : weeks = 52 := Except.ok.inj (hweeks.symm.trans rfl)
  obtain ⟨hexists, hstart⟩ := hother (.plain 53) (by decide)
  obtain ⟨s, hs⟩ := hexists.2 ⟨rfl, rfl, .lastMonday2024, rfl, ⟨rfl, by decide⟩, by decide⟩
  exact ⟨hweek, (hlate (by decide)).2.2, hiso (.plain 52) (by decide) (by decide), s, hs, hstart s hs⟩

end BusinessCalendar
