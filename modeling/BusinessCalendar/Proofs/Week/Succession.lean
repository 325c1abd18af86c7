import BusinessCalendar.Proofs.Week.WeekOne

/-!
# From one day to the next

Under a convention the number of the week goes up on the first weekday and nowhere else, until it
starts again: **on the first day of week 1 or, if that lies in the December before, on 1 January**
(`WeekConvention.Restarts`).  A January that begins before week 1 goes on with the week of the last
day of December.  `weekOfYear_day_to_day` puts this on the calls.

There are three places where the next day can lie: before week 1 of its year
(`weekOfDay?_succ_before`), at the new start (`weekOfDay?_restart`), and after it
(`weekOfDay?_succ_after`).
-/

namespace BusinessCalendar

namespace WeekConvention

variable {c : WeekConvention} {year n week : Int}

/-! ## On the line of days -/

/-- Before week 1 of a year the number stays what it was, also over the turn of the year. -/
lemma weekOfDay?_succ_before (hn : minDay ≤ n)
    (hyear : newYearsDay year ≤ n + 1 ∧ n + 1 < newYearsDay (year + 1)) (hfirst : minYear ≤ year)
    (hone : n + 1 < c.startOfWeek year 1) (hweek : c.weekOfDay? n = some week) :
    c.weekOfDay? (n + 1) = some week := by
  rcases Int.lt_or_eq_of_le hfirst with hlater | rfl
  · -- both days have the week of 31 December, unless the first one is that day
    rw [weekOfDay?_before hlater hyear hone, ← hweek]
    by_cases hjanuary : newYearsDay year ≤ n
    · exact (weekOfDay?_before hlater ⟨hjanuary, by omega⟩ (by omega)).symm
    · rw [show newYearsDay year - 1 = n by omega]
  · -- in the first year the days before week 1 have no number
    rw [newYearsDay_min] at hyear
    have hnone : c.weekOfDay? n = none :=
      (weekOfDay?_eq_none_iff hfirst ⟨by rwa [newYearsDay_min], by omega⟩).2 ⟨rfl, by omega⟩
    rw [hnone] at hweek
    cases hweek

/-- The numbers start again with week 1, or with 1 January if week 1 has begun by then. -/
lemma weekOfDay?_restart (hyear : newYearsDay year ≤ n ∧ n < newYearsDay (year + 1))
    (h : n = c.startOfWeek year 1 ∨ n = newYearsDay year ∧ c.startOfWeek year 1 ≤ n) :
    c.weekOfDay? n = some 1 := by
  have hone := c.startOfWeek_one_bounds year
  rw [weekOfDay?_eq hyear (by omega), Option.some.injEq]
  omega

/-- Within a year the number goes up on the first weekday and nowhere else. -/
lemma weekOfDay?_succ_after (hyear : newYearsDay year ≤ n ∧ n + 1 < newYearsDay (year + 1))
    (hone : c.startOfWeek year 1 ≤ n) (hweek : c.weekOfDay? n = some week) :
    c.weekOfDay? (n + 1) =
      some (if Weekday.onDay (n + 1) = c.firstWeekday then week + 1 else week) := by
  rw [weekOfDay?_eq ⟨hyear.1, by omega⟩ hone, Option.some.injEq] at hweek
  rw [weekOfDay?_eq ⟨by omega, hyear.2⟩ (by omega), Option.some.injEq]
  simp only [c.onDay_eq_firstWeekday_iff year]
  split <;> omega

/-- A day before week 1 of its year is not on the first weekday. -/
lemma onDay_ne_of_before (hyear : newYearsDay year ≤ n) (hone : n < c.startOfWeek year 1) :
    Weekday.onDay n ≠ c.firstWeekday := by
  have hbounds := c.startOfWeek_one_bounds year
  rw [Ne, c.onDay_eq_firstWeekday_iff year]
  omega

/-! ## On dates -/

variable (c)

/-- The dates on which the numbers start again: the first day of week 1 and, unless it comes before
week 1, 1 January. -/
def Restarts (d : Date) : Prop :=
  Call.firstDateOfWeek (.int d.year) (.int 1) (.convention c) = .ok d ∨
    (d.month = 1 ∧ d.day = 1) ∧ ¬c.PrecedesWeekOne d

variable {c}

lemma restarts_iff {d : Date} :
    c.Restarts d ↔ d.dayNumber = c.startOfWeek d.year 1 ∨
      d.dayNumber = newYearsDay d.year ∧ c.startOfWeek d.year 1 ≤ d.dayNumber := by
  rw [Restarts, Call.firstDateOfWeek_one_eq_ok_iff d.valid.1, precedesWeekOne_iff, Int.not_lt,
    Date.dayNumber_eq_newYearsDay_iff]

end WeekConvention

/-! ## The calls -/

/-- **From one day to the next the number of the week starts again, goes up or stays.**  If a date
has a number, so has the next one.  That is 1 on the first day of week 1 of its year, and on
1 January if week 1 has started by then; else it is one more on the first weekday, and the same on
every other day, among them a 1 January before week 1. -/
theorem weekOfYear_day_to_day (c : WeekConvention) (v next : Moment)
    (hnext : next.dayNumber = v.dayNumber + 1) (week : Int)
    (hweek : Call.weekOfYear (.moment v) (.convention c) = .ok week) :
    ∃ number, Call.weekOfYear (.moment next) (.convention c) = .ok number ∧
      (c.Restarts next.date → number = 1) ∧
      (¬c.Restarts next.date →
        (next.date.weekday = c.firstWeekday → number = week + 1) ∧
        (next.date.weekday ≠ c.firstWeekday → number = week)) ∧
      (next.date.month = 1 → next.date.day = 1 → c.PrecedesWeekOne next.date →
        next.date.weekday ≠ c.firstWeekday ∧ number = week) := by
  have hday := v.representable_dayNumber.1
  have hyear := next.date.dayNumber_mem_year
  have hfirst := next.date.valid.1.1
  rw [Call.weekOfYear_eq_ok_iff] at hweek
  simp only [Call.weekOfYear_eq_ok_iff, WeekConvention.restarts_iff,
    WeekConvention.precedesWeekOne_iff, Date.weekday]
  rw [Moment.dayNumber] at hnext ⊢
  rw [hnext] at hyear ⊢
  rcases Int.lt_or_le (v.dayNumber + 1) (c.startOfWeek next.date.year 1) with hone | hone
  case inl =>
    have hweekday := WeekConvention.onDay_ne_of_before hyear.1 hone
    refine ⟨week, WeekConvention.weekOfDay?_succ_before hday hyear hfirst hone hweek, ?_, ?_, ?_⟩
    · rintro (hstart | ⟨-, hstart⟩) <;> omega
    · exact fun _ => ⟨fun h => absurd h hweekday, fun _ => rfl⟩
    · exact fun _ _ _ => ⟨hweekday, rfl⟩
  case inr =>
    have hnot : ¬v.dayNumber + 1 < c.startOfWeek next.date.year 1 := Int.not_lt.2 hone
    by_cases hrestart : v.dayNumber + 1 = c.startOfWeek next.date.year 1 ∨
        v.dayNumber + 1 = newYearsDay next.date.year ∧
          c.startOfWeek next.date.year 1 ≤ v.dayNumber + 1
    · exact ⟨1, WeekConvention.weekOfDay?_restart hyear hrestart, fun _ => rfl,
        fun h => absurd hrestart h, fun _ _ h => absurd h hnot⟩
    · have hinside : newYearsDay next.date.year ≤ v.dayNumber ∧
          c.startOfWeek next.date.year 1 ≤ v.dayNumber := by
        omega
      refine ⟨_, WeekConvention.weekOfDay?_succ_after ⟨hinside.1, hyear.2⟩ hinside.2 hweek,
        fun h => absurd h hrestart, fun _ => ⟨fun h => if_pos h, fun h => if_neg h⟩,
        fun _ _ h => absurd h hnot⟩

/-- Under the ISO convention 1 January 2021, a Friday, goes on with week 53 of 2020, and 1 January
2025, a Wednesday, is in week 1. -/
theorem weekOfYear_day_to_day_newYears :
    (Moment.ofDate (.yearly 2021 1 1 (by decide) (by decide))).dayNumber =
        (Moment.ofDate (.yearEnd 2020 (by decide))).dayNumber + 1 ∧
      Call.weekOfYear (.date (.yearEnd 2020 (by decide))) (.convention .iso) = .ok 53 ∧
      Call.weekOfYear (.date (.yearly 2021 1 1 (by decide) (by decide))) (.convention .iso) =
        .ok 53 ∧
      (Moment.ofDate (.yearly 2025 1 1 (by decide) (by decide))).dayNumber =
        (Moment.ofDate (.yearEnd 2024 (by decide))).dayNumber + 1 ∧
      Call.weekOfYear (.date (.yearEnd 2024 (by decide))) (.convention .iso) = .ok 53 ∧
      Call.weekOfYear (.date (.yearly 2025 1 1 (by decide) (by decide))) (.convention .iso) =
        .ok 1 := by
  have hnext : (Moment.ofDate (.yearly 2021 1 1 (by decide) (by decide))).dayNumber =
      (Moment.ofDate (.yearEnd 2020 (by decide))).dayNumber + 1 := by
    decide
  have hnext' : (Moment.ofDate (.yearly 2025 1 1 (by decide) (by decide))).dayNumber =
      (Moment.ofDate (.yearEnd 2024 (by decide))).dayNumber + 1 := by
    decide
  have hlast : Call.weekOfYear (.date (.yearEnd 2020 (by decide))) (.convention .iso) = .ok 53 :=
    Call.weekOfYear_eq_ok_iff.2
      ((@WeekConvention.weekOfDay?_eq_some_iff .iso 2020 53 737789 (by decide) (by decide)).2
        (by decide))
  have hlast' : Call.weekOfYear (.date (.yearEnd 2024 (by decide))) (.convention .iso) = .ok 53 :=
    Call.weekOfYear_eq_ok_iff.2
      ((@WeekConvention.weekOfDay?_eq_some_iff .iso 2024 53 739250 (by decide) (by decide)).2
        (by decide))
  obtain ⟨number, hnumber, -, -, hsame⟩ := weekOfYear_day_to_day .iso _ _ hnext 53 hlast
  obtain ⟨-, rfl⟩ := hsame rfl rfl (WeekConvention.precedesWeekOne_iff.2 (by decide))
  obtain ⟨number, hnumber', hone, -⟩ := weekOfYear_day_to_day .iso _ _ hnext' 53 hlast'
  obtain rfl : number = 1 := hone (WeekConvention.restarts_iff.2 (.inr (by decide)))
  exact ⟨hnext, hlast, hnumber, hnext', hlast', hnumber'⟩

end BusinessCalendar
