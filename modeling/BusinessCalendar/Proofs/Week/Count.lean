import BusinessCalendar.Call.Week
import BusinessCalendar.Proofs.Week.Line

/-!
# Weeks counted from week 1

Under a convention the weeks of a year are counted from week 1, which is **the week that holds the
day of January that the rule names** (`WeekConvention.weekOneStart_eq`): the first, the fourth or the
seventh.  A day that week 1 of its own year has reached lies in the week of its number
(`WeekConvention.weekOfDay?_eq_some_iff`); the days before it go on with the weeks of the year before
(`WeekConvention.weekOfDay?_eq_of_lt_next`); and a year has the weeks that start in it or hold its
first day (`WeekConvention.hasWeek_iff`).
-/

namespace BusinessCalendar

lemma WeekRule.minDays_mem_january (r : WeekRule) :
    (1 ≤ (1 : Int) ∧ (1 : Int) ≤ 12) ∧ 1 ≤ r.minDays ∧ r.minDays ≤ 28 := by
  have := r.minDays_bounds
  omega

/-- The day of January that a rule names. -/
def WeekRule.namedDay (r : WeekRule) (year : Int) (h : minYear ≤ year ∧ year ≤ maxYear) : Date :=
  .yearly year 1 r.minDays h r.minDays_mem_january

lemma WeekRule.dayNumber_namedDay (r : WeekRule) (year : Int)
    (h : minYear ≤ year ∧ year ≤ maxYear) :
    (r.namedDay year h).dayNumber = newYearsDay year + r.minDays - 1 :=
  Date.dayNumber_january rfl

namespace WeekConvention

variable (c : WeekConvention)

/-! ## Where weeks start -/

/-- **Week 1 is the week that holds the day of January which the rule names.** -/
theorem weekOneStart_eq (n : Int) :
    c.weekOneStart n = c.firstWeekday.weekStart (n + c.rule.minDays - 1) := by
  obtain ⟨w, r⟩ := c
  cases r with
  | firstDay =>
    simp only [weekOneStart, Weekday.weekStart, Weekday.daysBackward, WeekRule.minDays]
    omega
  | firstFourDayWeek =>
    simp only [weekOneStart, Weekday.weekStart, Weekday.daysBackward, WeekRule.minDays]
    split_ifs <;> omega
  | firstFullWeek =>
    simp only [weekOneStart, Weekday.weekStart, Weekday.daysBackward, WeekRule.minDays]
    split_ifs <;> omega

/-- Week 1 starts up to six days before or after 1 January. -/
lemma weekOneStart_bounds (n : Int) : n - 6 ≤ c.weekOneStart n ∧ c.weekOneStart n ≤ n + 6 := by
  have hstart := c.firstWeekday.weekStart_bounds (n + c.rule.minDays - 1)
  have hrule := c.rule.minDays_bounds
  rw [weekOneStart_eq]
  omega

lemma startOfWeek_succ (year week : Int) :
    c.startOfWeek year (week + 1) = c.startOfWeek year week + 7 := by
  rw [startOfWeek, startOfWeek]
  omega

lemma startOfWeek_one (year : Int) :
    c.startOfWeek year 1 = c.weekOneStart (newYearsDay year) := by
  rw [startOfWeek]
  omega

lemma startOfWeek_one_bounds (year : Int) :
    newYearsDay year - 6 ≤ c.startOfWeek year 1 ∧ c.startOfWeek year 1 ≤ newYearsDay year + 6 := by
  rw [startOfWeek_one]
  exact c.weekOneStart_bounds (newYearsDay year)

/-- Every year has a week 1. -/
lemma startOfWeek_one_lt (year : Int) : c.startOfWeek year 1 < newYearsDay (year + 1) := by
  have hbounds := c.startOfWeek_one_bounds year
  have hlength := newYearsDay_step year
  omega

lemma startOfWeek_one_eq_weekStart (year : Int) (h : minYear ≤ year ∧ year ≤ maxYear) :
    c.startOfWeek year 1 = c.firstWeekday.weekStart (c.rule.namedDay year h).dayNumber := by
  rw [startOfWeek_one, weekOneStart_eq, c.rule.dayNumber_namedDay]

/-- Every week starts on the first weekday. -/
lemma onDay_startOfWeek (year week : Int) :
    Weekday.onDay (c.startOfWeek year week) = c.firstWeekday := by
  have hone : Weekday.onDay (c.weekOneStart (newYearsDay year)) = c.firstWeekday := by
    rw [weekOneStart_eq]
    exact Weekday.onDay_weekStart _ _
  rw [← hone, Weekday.onDay_eq_onDay_iff, startOfWeek]
  omega

/-- The first weekday comes whole weeks before or after the start of week 1. -/
lemma onDay_eq_firstWeekday_iff (year : Int) {n : Int} :
    Weekday.onDay n = c.firstWeekday ↔ (n - c.startOfWeek year 1) % 7 = 0 := by
  rw [← Weekday.onDay_eq_onDay_iff, onDay_startOfWeek, eq_comm]

/-- The week of a year that holds a day starts on the first day of that day's week. -/
lemma startOfWeek_eq_weekStart {year week n : Int} (hlow : c.startOfWeek year week ≤ n)
    (hhigh : n < c.startOfWeek year (week + 1)) :
    c.startOfWeek year week = c.firstWeekday.weekStart n := by
  rw [startOfWeek_succ] at hhigh
  exact ((Weekday.weekStart_eq_iff _).2 ⟨c.onDay_startOfWeek year week, hlow, hhigh⟩).symm

variable {c}

/-! ## The week of a day -/

lemma weekOfDay?_eq {year n : Int} (hyear : newYearsDay year ≤ n ∧ n < newYearsDay (year + 1))
    (hone : c.startOfWeek year 1 ≤ n) :
    c.weekOfDay? n = some ((n - c.startOfWeek year 1) / 7 + 1) := by
  rw [startOfWeek_one] at hone ⊢
  rw [weekOfDay?, YearMonthDay.ofDay_year_eq_iff.2 hyear, if_pos (by omega)]

/-- **A day that week 1 of its year has reached lies in the week of its number.** -/
theorem weekOfDay?_eq_some_iff {year week n : Int}
    (hyear : newYearsDay year ≤ n ∧ n < newYearsDay (year + 1)) (hone : c.startOfWeek year 1 ≤ n) :
    c.weekOfDay? n = some week ↔
      c.startOfWeek year week ≤ n ∧ n < c.startOfWeek year (week + 1) := by
  rw [weekOfDay?_eq hyear hone, Option.some.injEq]
  simp only [startOfWeek]
  omega

/-- A day before week 1 of its own year has the week of the last day of the year before. -/
lemma weekOfDay?_before {year n : Int} (hfirst : minYear < year)
    (hyear : newYearsDay year ≤ n ∧ n < newYearsDay (year + 1)) (hone : n < c.startOfWeek year 1) :
    c.weekOfDay? n = c.weekOfDay? (newYearsDay year - 1) := by
  rw [startOfWeek_one] at hone
  rw [weekOfDay?, YearMonthDay.ofDay_year_eq_iff.2 hyear, if_neg (by omega), if_neg (by omega)]

/-- **The weeks of a year are counted on until both the next year and its week 1 have begun.** -/
theorem weekOfDay?_eq_of_lt_next {year n : Int} (hfirst : minYear ≤ year)
    (hlow : newYearsDay year ≤ n ∧ c.startOfWeek year 1 ≤ n)
    (hhigh : n < newYearsDay (year + 1) ∨ n < c.startOfWeek (year + 1) 1) :
    c.weekOfDay? n = some ((n - c.startOfWeek year 1) / 7 + 1) := by
  by_cases hyear : n < newYearsDay (year + 1)
  · exact weekOfDay?_eq ⟨hlow.1, hyear⟩ hlow.2
  · -- the first days of the next year lie in the week of 31 December
    have hnext := hhigh.resolve_left hyear
    have hone := c.startOfWeek_one_bounds year
    have hone' := c.startOfWeek_one_bounds (year + 1)
    have hstep := newYearsDay_step year
    have hstep' := newYearsDay_step (year + 1)
    have hweeks := (c.onDay_eq_firstWeekday_iff year).1 (c.onDay_startOfWeek (year + 1) 1)
    rw [weekOfDay?_before (by omega) (by omega) hnext,
      weekOfDay?_eq (lastDay_mem_year year) (by omega), Option.some.injEq]
    omega

/-- The last day of a year lies in a week of that year, and no week of the year starts after it. -/
lemma exists_lastWeek (c : WeekConvention) (year : Int) :
    ∃ last, c.weekOfDay? (newYearsDay (year + 1) - 1) = some last ∧
      ∀ week, c.startOfWeek year week < newYearsDay (year + 1) ↔ week ≤ last := by
  have hstep := newYearsDay_step year
  have hone := c.startOfWeek_one_bounds year
  refine ⟨_, weekOfDay?_eq (lastDay_mem_year year) (by omega), fun week => ?_⟩
  simp only [startOfWeek]
  omega

/-- **Only the days of the first year before its week 1 have no number.** -/
theorem weekOfDay?_eq_none_iff {year n : Int} (hfirst : minYear ≤ year)
    (hyear : newYearsDay year ≤ n ∧ n < newYearsDay (year + 1)) :
    c.weekOfDay? n = none ↔ year = minYear ∧ n < c.startOfWeek year 1 := by
  rcases Int.lt_or_le n (c.startOfWeek year 1) with hone | hone
  · rw [and_iff_left hone]
    rcases Int.lt_or_eq_of_le hfirst with hlater | rfl
    · obtain ⟨last, hlast, -⟩ := exists_lastWeek c (year - 1)
      rw [Int.sub_add_cancel] at hlast
      rw [weekOfDay?_before hlater hyear hone, hlast]
      exact iff_of_false nofun (Int.ne_of_gt hlater)
    · rw [startOfWeek_one] at hone
      rw [weekOfDay?, YearMonthDay.ofDay_year_eq_iff.2 hyear, if_neg (by omega),
        if_pos (Int.le_refl minYear)]
      exact iff_of_true rfl rfl
  · rw [weekOfDay?_eq hyear hone]
    exact iff_of_false nofun fun h => Int.not_lt.2 hone h.2

/-- The first day of a week inside the year has the number of the week. -/
lemma weekOfDay?_max {year week : Int} (hweek : 1 ≤ week)
    (hbegins : c.startOfWeek year week < newYearsDay (year + 1)) :
    (newYearsDay year ≤ max (c.startOfWeek year week) (newYearsDay year) ∧
        max (c.startOfWeek year week) (newYearsDay year) < newYearsDay (year + 1)) ∧
      c.weekOfDay? (max (c.startOfWeek year week) (newYearsDay year)) = some week := by
  have hstep := newYearsDay_step year
  have hone := c.startOfWeek_one_bounds year
  have hfirst : c.startOfWeek year 1 ≤ c.startOfWeek year week := by
    simp only [startOfWeek]
    omega
  have hinside : newYearsDay year ≤ max (c.startOfWeek year week) (newYearsDay year) ∧
      max (c.startOfWeek year week) (newYearsDay year) < newYearsDay (year + 1) := by
    omega
  refine ⟨hinside, (weekOfDay?_eq_some_iff hinside (by omega)).2 ?_⟩
  rw [startOfWeek_succ]
  omega

/-- **A year has the weeks that begin before it ends.** -/
theorem hasWeek_iff {year week : Int} (hyear : year ≤ maxYear) :
    c.hasWeek year week = true ↔ 1 ≤ week ∧ c.startOfWeek year week < newYearsDay (year + 1) := by
  have hend := newYearsDay_succ_le hyear
  simp only [hasWeek, Bool.and_eq_true, decide_eq_true_eq, beq_iff_eq,
    YearMonthDay.ofDay_year_eq_iff]
  constructor
  · rintro ⟨⟨⟨hweek, -⟩, -, hinside⟩, -⟩
    exact ⟨hweek, by omega⟩
  · rintro ⟨hweek, hbegins⟩
    obtain ⟨hinside, hnumber⟩ := weekOfDay?_max hweek hbegins
    exact ⟨⟨⟨hweek, by omega⟩, hinside⟩, hnumber⟩

end WeekConvention

end BusinessCalendar
