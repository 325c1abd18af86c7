import BusinessCalendar.Proofs.Week.Inversion

/-!
# Week 1

A rule is a least number of days, and week 1 is the first week that has as many of its days in the
year.  **It is the only week from the first weekday on that has enough of them when the week before
it does not** (`WeekConvention.startOfWeek_one_iff_card`), and so the week of the day of January that
the rule names (`weekOne_holds_namedDay`).

* `WeekConvention.startOfWeek_one_minDays` — where week 1 starts, by the days that the rule asks for.
* `WeekConvention.PrecedesWeekOne` — the dates that week 1 of their own year has not reached.
-/

namespace BusinessCalendar

namespace WeekConvention

variable (c : WeekConvention)

/-- Week 1 starts at most six days before the day of January that the rule names, and not after
it. -/
lemma startOfWeek_one_minDays (year : Int) :
    newYearsDay year + c.rule.minDays - 7 ≤ c.startOfWeek year 1 ∧
      c.startOfWeek year 1 < newYearsDay year + c.rule.minDays := by
  have hstart := c.firstWeekday.weekStart_bounds (newYearsDay year + c.rule.minDays - 1)
  rw [startOfWeek_one, weekOneStart_eq]
  omega

/-- **Of the weeks from the first weekday on, week 1 alone has as many days in the year as the rule
asks for, with fewer in the week before.** -/
theorem startOfWeek_one_iff_card {start year : Int} (hday : Weekday.onDay start = c.firstWeekday) :
    (c.rule.minDays ≤ (weekDaysOfYear start year).card ∧
        ((weekDaysOfYear (start - 7) year).card : Int) < c.rule.minDays) ↔
      start = c.startOfWeek year 1 := by
  have hbounds := c.startOfWeek_one_minDays year
  have hrule := c.rule.minDays_bounds
  have hlength := newYearsDay_step year
  have hweeks := (c.onDay_eq_firstWeekday_iff year).1 hday
  rw [card_weekDaysOfYear, card_weekDaysOfYear]
  omega

/-! ## Dates before week 1 -/

/-- A date comes before week 1 of its own year. -/
def PrecedesWeekOne (d : Date) : Prop :=
  ∃ s, Call.firstDateOfWeek (.int d.year) (.int 1) (.convention c) = .ok s ∧
    d.dayNumber < s.dayNumber

end WeekConvention

namespace Call

variable {c : WeekConvention} {y : Int}

lemma firstDateOfWeek_one_eq_ok_iff (hy : minYear ≤ y ∧ y ≤ maxYear) {s : Date} :
    firstDateOfWeek (.int y) (.int 1) (.convention c) = .ok s ↔
      s.dayNumber = c.startOfWeek y 1 :=
  @firstDateOfWeek_eq_ok_iff c (.plain y) (.plain 1) hy ⟨Int.le_refl 1, c.startOfWeek_one_lt y⟩ s

/-- The convention of a first weekday and a rule. -/
lemma weekConvention_eq_ok {n : Numeral} {w : Weekday} (h : n.value = w.index) (r : WeekRule) :
    weekConvention (.number n) (.number (.rule r)) = .ok { firstWeekday := w, rule := r } := by
  rw [weekConvention, Value.requireWeekday_eq_ok _ h, ok_bind]
  rfl

end Call

lemma WeekConvention.precedesWeekOne_iff {c : WeekConvention} {d : Date} :
    c.PrecedesWeekOne d ↔ d.dayNumber < c.startOfWeek d.year 1 := by
  have hyear := d.valid.1
  constructor
  · rintro ⟨s, hs, hbefore⟩
    rwa [(Call.firstDateOfWeek_one_eq_ok_iff hyear).1 hs] at hbefore
  · intro hbefore
    -- a week 1 that starts after a date starts on one
    have hfirst := d.representable_dayNumber.1
    have hone := c.startOfWeek_one_lt d.year
    have hend := newYearsDay_succ_le hyear.2
    obtain ⟨s, hs⟩ := (Date.exists_dayNumber_eq_iff (n := c.startOfWeek d.year 1) (by omega)).2
      (by omega)
    exact ⟨s, (Call.firstDateOfWeek_one_eq_ok_iff hyear).2 hs, by rwa [hs]⟩

/-! ## The calls -/

/-- **Week 1 is the week that holds the day of January which the rule names.**  Looking the week up
and searching for the first weekday, backwards from that day, lead to one date, or both leave the
calendar.  On the line of days it is the only week from the first weekday on of which at least as
many days as the rule asks for lie in the year, while of the week before fewer do. -/
theorem weekOne_holds_namedDay (y : Int) (hy : 1 ≤ y ∧ y ≤ 9999) (firstWeekday : Numeral)
    (w : Weekday) (hw : firstWeekday.value = w.index) (r : WeekRule) :
    ∃ c start, Call.weekConvention (.number firstWeekday) (.number (.rule r)) = .ok c ∧
      ((∃ s : Date, s.dayNumber = start ∧
          Call.firstDateOfWeek (.int y) (.int 1) (.convention c) = .ok s ∧
          Call.firstDayOfWeek (.date (r.namedDay y hy)) (.number firstWeekday) =
            .ok (.ofDate s)) ∨
        (start < minDay ∧
          (∃ f, Call.firstDateOfWeek (.int y) (.int 1) (.convention c) = .error f ∧
            f.kind = .range) ∧
          ∃ f, Call.firstDayOfWeek (.date (r.namedDay y hy)) (.number firstWeekday) = .error f ∧
            f.kind = .range)) ∧
      Weekday.onDay start = w ∧
      ∀ s, Weekday.onDay s = w →
        ((r.minDays ≤ (weekDaysOfYear s y).card ∧
          ((weekDaysOfYear (s - 7) y).card : Int) < r.minDays) ↔ s = start) := by
  let c : WeekConvention := { firstWeekday := w, rule := r }
  have hyear : minYear ≤ y ∧ y ≤ maxYear := hy
  have hstart : c.startOfWeek y 1 = w.weekStart (r.namedDay y hyear).dayNumber :=
    c.startOfWeek_one_eq_weekStart y hyear
  refine ⟨c, c.startOfWeek y 1, Call.weekConvention_eq_ok hw r, ?_, c.onDay_startOfWeek y 1,
    fun s => c.startOfWeek_one_iff_card⟩
  by_cases hbegin : minDay ≤ c.startOfWeek y 1
  · obtain ⟨s, hs⟩ := Date.exists_weekStart (hstart ▸ hbegin)
    refine .inl ⟨s, hs.trans hstart.symm, ?_, (Call.firstDayOfWeek_eq_ok_iff hw).2 ⟨hs, rfl⟩⟩
    exact (Call.firstDateOfWeek_one_eq_ok_iff hyear).2 (hs.trans hstart.symm)
  · have hbefore := Int.not_le.1 hbegin
    refine .inr ⟨hbefore, ?_, Call.firstDayOfWeek_error hw (hstart ▸ hbefore)⟩
    exact @Call.firstDateOfWeek_error c (.plain y) (.plain 1) hyear
      ⟨Int.le_refl 1, c.startOfWeek_one_lt y⟩ hbefore

/-- Year 1 starts on a Monday, so its week 1 from Sunday on would start the day before the first
date; 1 January 2021 is a Friday, with too few days after it in its week. -/
theorem weekOne_holds_namedDay_newYear1 :
    (1 ≤ (1 : Int) ∧ (1 : Int) ≤ 9999) ∧
      (Numeral.weekday .sunday).value = Weekday.sunday.index ∧
      (∃ f, Call.firstDateOfWeek (.int 1) (.int 1) (.convention .sundayFirstDay) = .error f ∧
        f.kind = .range) ∧
      (∃ f, Call.firstDayOfWeek (.date (.yearly 1 1 1 (by decide) (by decide)))
        (.weekday .sunday) = .error f ∧ f.kind = .range) ∧
      ∃ s : Date, s.dayNumber = 737793 ∧
        Call.firstDateOfWeek (.int 2021) (.int 1) (.convention .iso) = .ok s ∧
        Call.firstDayOfWeek (.date (.yearly 2021 1 4 (by decide) (by decide))) (.weekday .monday) =
          .ok (.ofDate s) := by
  obtain ⟨c, start, hc, hearly, -, honly⟩ :=
    weekOne_holds_namedDay 1 (by decide) (.weekday .sunday) .sunday rfl .firstDay
  obtain rfl : c = .sundayFirstDay := Except.ok.inj (hc.symm.trans rfl)
  obtain rfl : -1 = start := (honly (-1) (by decide)).1 ⟨by decide, by decide⟩
  obtain ⟨c, start, hc, hlate, -, honly⟩ :=
    weekOne_holds_namedDay 2021 (by decide) (.weekday .monday) .monday rfl .firstFourDayWeek
  obtain rfl : c = .iso := Except.ok.inj (hc.symm.trans rfl)
  obtain rfl : 737793 = start := (honly 737793 (by decide)).1 ⟨by decide, by decide⟩
  obtain ⟨s, hs, -⟩ | ⟨-, hfirst, hback⟩ := hearly
  · exact absurd (hs ▸ s.representable_dayNumber) (by decide)
  · exact ⟨by decide, rfl, hfirst, hback, hlate.resolve_right fun h => absurd h.1 (by decide)⟩

end BusinessCalendar
