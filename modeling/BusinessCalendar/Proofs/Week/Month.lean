import BusinessCalendar.Proofs.Week.Partition
import BusinessCalendar.Proofs.Week.WeekOne

/-!
# Weeks of a month

The number of a week in a month is found from the day of the month and the days of the first week
that come before it.  **It counts the weeks that have started since the week of the first of the
month** (`weekOfMonth_eq`), as the weeks of the year do since the week of 1 January, where one day is
enough for week 1 (`WeekConvention.weekOfDay?_firstDay`).  So the two go up together, and two dates
of a month are in one week exactly when no week starts between them (`weekOfMonth_counts_weeks`).
-/

namespace BusinessCalendar

/-! ## The first of a month -/

/-- The first day of the month that holds a date. -/
def Date.firstOfMonth (d : Date) : Date := .yearly d.year d.month 1 d.valid.1 ⟨d.valid.2.1, by decide⟩

lemma Date.dayNumber_firstOfMonth (d : Date) :
    d.firstOfMonth.dayNumber = d.dayNumber - (d.day - 1) := by
  simp only [firstOfMonth, yearly, dayNumber, YearMonthDay.dayNumber]
  omega

lemma Date.firstOfMonth_congr {d e : Date} (hyear : d.year = e.year) (hmonth : d.month = e.month) :
    d.firstOfMonth = e.firstOfMonth := by
  simp only [firstOfMonth, yearly, hyear, hmonth]

/-- A month is at most 31 days long. -/
lemma Date.firstOfMonth_bounds (d : Date) :
    d.firstOfMonth.dayNumber ≤ d.dayNumber ∧ d.dayNumber ≤ d.firstOfMonth.dayNumber + 30 := by
  obtain ⟨-, hmonth, hday₁, hday₂⟩ := d.valid
  have hlength := (daysInMonth_bounds d.year hmonth.1 hmonth.2).2
  rw [dayNumber_firstOfMonth]
  omega

/-! ## Counting weeks -/

/-- **The week of the month counts the weeks that have started since the week of its first day.** -/
theorem weekOfMonth_eq (d : Date) (w : Weekday) :
    weekOfMonth d w =
      (w.weekStart d.dayNumber - w.weekStart d.firstOfMonth.dayNumber) / 7 + 1 := by
  have hbounds := w.weekStart_bounds d.dayNumber
  have hweeks := w.weekStart_sub_weekStart d.firstOfMonth.dayNumber d.dayNumber
  have hlead : w.weekStart d.firstOfMonth.dayNumber = d.firstOfMonth.dayNumber -
      (d.firstOfMonth.dayNumber - w.index) % 7 := rfl
  have hfirst := d.dayNumber_firstOfMonth
  simp only [weekOfMonth, ← hfirst]
  omega

lemma weekOfMonth_bounds (d : Date) (w : Weekday) : 1 ≤ weekOfMonth d w ∧ weekOfMonth d w ≤ 6 := by
  have hmonth := d.firstOfMonth_bounds
  have hfirst := w.weekStart_bounds d.firstOfMonth.dayNumber
  have hday := w.weekStart_bounds d.dayNumber
  have hmono := w.weekStart_mono hmonth.1
  rw [weekOfMonth_eq]
  omega

/-- Two dates of a month have one number exactly when they lie in one week. -/
lemma weekOfMonth_eq_iff {d e : Date} {w : Weekday} (hfirst : d.firstOfMonth = e.firstOfMonth) :
    weekOfMonth d w = weekOfMonth e w ↔ w.weekStart d.dayNumber = w.weekStart e.dayNumber := by
  have hd := w.weekStart_sub_weekStart d.firstOfMonth.dayNumber d.dayNumber
  have he := w.weekStart_sub_weekStart d.firstOfMonth.dayNumber e.dayNumber
  rw [weekOfMonth_eq, weekOfMonth_eq, ← hfirst]
  omega

/-- Where one day is enough for week 1, the week of the year counts the weeks that have started since
the week of 1 January. -/
lemma WeekConvention.weekOfDay?_firstDay {c : WeekConvention} (hrule : c.rule = .firstDay)
    {year n : Int} (hyear : newYearsDay year ≤ n ∧ n < newYearsDay (year + 1)) :
    c.weekOfDay? n =
      some ((c.firstWeekday.weekStart n - c.firstWeekday.weekStart (newYearsDay year)) / 7 + 1) := by
  have hone : c.startOfWeek year 1 = c.firstWeekday.weekStart (newYearsDay year) := by
    rw [startOfWeek_one, weekOneStart_eq, hrule, WeekRule.minDays, Int.add_sub_cancel]
  have hjanuary := c.firstWeekday.weekStart_bounds (newYearsDay year)
  have hbounds := c.firstWeekday.weekStart_bounds n
  have hweeks := c.firstWeekday.weekStart_sub_weekStart (newYearsDay year) n
  rw [weekOfDay?_eq hyear (by omega), hone, Option.some.injEq]
  omega

/-- The weeks of a month and those of the year go up together. -/
lemma WeekConvention.weekOfMonth_eq_sub {c : WeekConvention} (hrule : c.rule = .firstDay)
    (d : Date) :
    ∃ this first, c.weekOfDay? d.dayNumber = some this ∧
      c.weekOfDay? d.firstOfMonth.dayNumber = some first ∧
      weekOfMonth d c.firstWeekday = this - first + 1 := by
  have hjanuary : d.firstOfMonth.year = d.year := rfl
  have hday := c.firstWeekday.weekStart_sub_weekStart (newYearsDay d.year) d.dayNumber
  have hfirst :=
    c.firstWeekday.weekStart_sub_weekStart (newYearsDay d.year) d.firstOfMonth.dayNumber
  refine ⟨_, _, weekOfDay?_firstDay hrule d.dayNumber_mem_year,
    weekOfDay?_firstDay hrule d.firstOfMonth.dayNumber_mem_year, ?_⟩
  rw [weekOfMonth_eq, hjanuary]
  omega

/-- No week starts between two dates exactly when no date between them is on the first weekday. -/
lemma Date.weekStart_eq_iff {d e : Date} {w : Weekday} (h : d.dayNumber ≤ e.dayNumber) :
    w.weekStart d.dayNumber = w.weekStart e.dayNumber ↔
      ∀ x : Date, d.dayNumber < x.dayNumber → x.dayNumber ≤ e.dayNumber → x.weekday ≠ w := by
  rw [w.weekStart_eq_iff_forall_onDay_ne h]
  constructor
  · exact fun hnone x => hnone x.dayNumber
  · intro hnone k hlow hhigh
    have hrange : Representable k :=
      ⟨Int.le_trans d.representable_dayNumber.1 (Int.le_of_lt hlow),
        Int.le_trans hhigh e.representable_dayNumber.2⟩
    have hdate := hnone (ofDay k hrange)
    rw [weekday, dayNumber_ofDay] at hdate
    exact hdate hlow hhigh

/-! ## The calls -/

namespace Call

variable {v : Moment} {n : Numeral} {w : Weekday}

lemma weekOfMonth_eq_ok (h : n.value = w.index) :
    weekOfMonth (.moment v) (.number n) = .ok (BusinessCalendar.weekOfMonth v.date w) := by
  rw [weekOfMonth, Value.requireWeekday_eq_ok _ h, ok_bind, Value.requireDate_moment, ok_bind,
    pure_eq_ok]

end Call

/-- **Weeks of a month are weeks of the year.**  Where one day is enough for week 1, the week of a
month is the week of the year, counted from that of the first of the month.  There are at most six,
and two dates of a month have the same one exactly when no first day of a week comes after the
earlier date and up to the later one. -/
theorem weekOfMonth_counts_weeks (firstWeekday : Numeral) (w : Weekday)
    (h : firstWeekday.value = w.index) :
    ∃ c, Call.weekConvention (.number firstWeekday) (.number (.rule .firstDay)) = .ok c ∧
      (∀ v : Moment, ∃ week this first,
        Call.weekOfMonth (.moment v) (.number firstWeekday) = .ok week ∧
        Call.weekOfYear (.moment v) (.convention c) = .ok this ∧
        Call.weekOfYear (.date v.date.firstOfMonth) (.convention c) = .ok first ∧
        week = this - first + 1 ∧ 1 ≤ week ∧ week ≤ 6) ∧
      ∀ u v : Moment, u.date.year = v.date.year → u.date.month = v.date.month →
        u.dayNumber ≤ v.dayNumber →
          (Call.weekOfMonth (.moment u) (.number firstWeekday) =
              Call.weekOfMonth (.moment v) (.number firstWeekday) ↔
            ∀ d : Date, u.dayNumber < d.dayNumber → d.dayNumber ≤ v.dayNumber → d.weekday ≠ w) := by
  refine ⟨_, Call.weekConvention_eq_ok h .firstDay, fun v => ?_, fun u v hyear hmonth hle => ?_⟩
  · obtain ⟨this, first, hthis, hfirst, hweek⟩ :=
      WeekConvention.weekOfMonth_eq_sub (c := { firstWeekday := w, rule := .firstDay }) rfl v.date
    exact ⟨_, this, first, Call.weekOfMonth_eq_ok h, Call.weekOfYear_eq_ok_iff.2 hthis,
      Call.weekOfYear_eq_ok_iff.2 hfirst, hweek, weekOfMonth_bounds v.date w⟩
  · rw [Call.weekOfMonth_eq_ok h, Call.weekOfMonth_eq_ok h, Except.ok.injEq,
      weekOfMonth_eq_iff (Date.firstOfMonth_congr hyear hmonth)]
    exact Date.weekStart_eq_iff hle

/-- March 2025 starts on a Saturday: counted from Sunday on, its last two days are in a sixth week,
which is the fourteenth of the year. -/
theorem weekOfMonth_counts_weeks_sixthWeek :
    (Numeral.weekday .sunday).value = Weekday.sunday.index ∧
      Call.weekOfMonth (.date ⟨⟨2025, 3, 30⟩, by decide⟩) (.weekday .sunday) = .ok 6 ∧
      Call.weekOfYear (.date ⟨⟨2025, 3, 30⟩, by decide⟩) (.convention .sundayFirstDay) = .ok 14 ∧
      Call.weekOfYear (.date ⟨⟨2025, 3, 1⟩, by decide⟩) (.convention .sundayFirstDay) = .ok 9 ∧
      Call.weekOfMonth (.date ⟨⟨2025, 3, 29⟩, by decide⟩) (.weekday .sunday) ≠ .ok 6 := by
  obtain ⟨c, hc, hweeks, hsame⟩ := weekOfMonth_counts_weeks (.weekday .sunday) .sunday rfl
  obtain rfl : c = .sundayFirstDay := Except.ok.inj (hc.symm.trans rfl)
  obtain ⟨week, this, first, hweek, hthis, hfirst, hsub, -⟩ :=
    hweeks (.ofDate ⟨⟨2025, 3, 30⟩, by decide⟩)
  have hnumber : WeekConvention.sundayFirstDay.weekOfDay? 739339 = some 14 :=
    (@WeekConvention.weekOfDay?_eq_some_iff _ 2025 _ _ (by decide) (by decide)).2 (by decide)
  obtain rfl : this = 14 := Option.some.inj ((Call.weekOfYear_eq_ok_iff.1 hthis).symm.trans hnumber)
  have hstart : WeekConvention.sundayFirstDay.weekOfDay? 739310 = some 9 :=
    (@WeekConvention.weekOfDay?_eq_some_iff _ 2025 _ _ (by decide) (by decide)).2 (by decide)
  obtain rfl : first = 9 := Option.some.inj ((Call.weekOfYear_eq_ok_iff.1 hfirst).symm.trans hstart)
  obtain rfl : week = 6 := hsub
  refine ⟨rfl, hweek, hthis, hfirst, fun h => ?_⟩
  exact (hsame (.ofDate ⟨⟨2025, 3, 29⟩, by decide⟩) (.ofDate ⟨⟨2025, 3, 30⟩, by decide⟩) rfl rfl
    (by decide)).1 (h.trans hweek.symm) ⟨⟨2025, 3, 30⟩, by decide⟩ (by decide) (by decide) (by decide)

end BusinessCalendar
