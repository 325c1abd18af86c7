import BusinessCalendar.Call.Navigation
import BusinessCalendar.Proofs.Gregorian.YearLine
import BusinessCalendar.Proofs.Moment.Movement

/-!
# The line of weeks

For each weekday the line of days falls into weeks of seven days that start on it.  The first day of
the week that holds a day is the last one on the weekday up to that day: **it is the only day on the
weekday at most six days back** (`Weekday.weekStart_eq_iff`).

* `Weekday.weekStart` — on the unbounded line, where it always exists.
* `weekDaysOfYear` — the days of a year in a week.
* `Call.firstDayOfWeek_reaches` — on dates, where it exists unless it comes before the first day.
-/

namespace BusinessCalendar

namespace Weekday

/-- The first day of the week, from `w` on, that holds a day. -/
def weekStart (w : Weekday) (n : Int) : Int := n - w.daysBackward n

variable (w : Weekday)

lemma onDay_weekStart (n : Int) : onDay (w.weekStart n) = w :=
  w.onDay_sub_daysBackward n

lemma weekStart_bounds (n : Int) : w.weekStart n ≤ n ∧ n < w.weekStart n + 7 := by
  have := w.daysBackward_bounds n
  rw [weekStart]
  omega

/-- Two days fall on one weekday exactly when whole weeks lie between them. -/
lemma onDay_eq_onDay_iff (m n : Int) : onDay m = onDay n ↔ (n - m) % 7 = 0 := by
  rw [onDay_eq_iff, index_onDay]
  omega

/-- **The first day of a day's week is the only day on its weekday at most six days back.** -/
theorem weekStart_eq_iff {n s : Int} : w.weekStart n = s ↔ onDay s = w ∧ s ≤ n ∧ n < s + 7 := by
  have hbounds := w.weekStart_bounds n
  constructor
  · rintro rfl
    exact ⟨w.onDay_weekStart n, hbounds⟩
  · rintro ⟨hday, hlow, hhigh⟩
    have hweeks := (onDay_eq_onDay_iff (w.weekStart n) s).1 (by rw [w.onDay_weekStart, hday])
    omega

lemma weekStart_of_onDay {n : Int} (h : onDay n = w) : w.weekStart n = n :=
  w.weekStart_eq_iff.2 ⟨h, Int.le_refl n, by omega⟩

lemma weekStart_weekStart (n : Int) : w.weekStart (w.weekStart n) = w.weekStart n :=
  w.weekStart_of_onDay (w.onDay_weekStart n)

lemma weekStart_mono {m n : Int} (h : m ≤ n) : w.weekStart m ≤ w.weekStart n := by
  simp only [weekStart, daysBackward]
  omega

lemma weekStart_add_seven (n : Int) : w.weekStart (n + 7) = w.weekStart n + 7 := by
  simp only [weekStart, daysBackward]
  omega

/-- Whole weeks lie between the first days of two weeks. -/
lemma weekStart_sub_weekStart (m n : Int) : (w.weekStart n - w.weekStart m) % 7 = 0 :=
  (onDay_eq_onDay_iff _ _).1 (by rw [onDay_weekStart, onDay_weekStart])

end Weekday

/-! ## The days of a year in a week -/

/-- The days of a year among the seven from a day on, by how many days they come after it.  The
calendar goes on before the first date and after the last one. -/
def weekDaysOfYear (start year : Int) : Finset Nat :=
  {i ∈ Finset.range 7 | (YearMonthDay.ofDay (start + i)).year = year}

/-- A week has the days of a year that lie between its own ends and those of the year. -/
lemma card_weekDaysOfYear (start year : Int) :
    (weekDaysOfYear start year).card =
      (min (start + 7) (newYearsDay (year + 1)) - max start (newYearsDay year)).toNat := by
  have hinterval : weekDaysOfYear start year =
      Finset.Ico (newYearsDay year - start).toNat (min 7 (newYearsDay (year + 1) - start).toNat) := by
    ext i
    simp only [weekDaysOfYear, Finset.mem_filter, Finset.mem_range, Finset.mem_Ico,
      YearMonthDay.ofDay_year_eq_iff]
    omega
  rw [hinterval, Nat.card_Ico]
  omega

/-! ## On dates -/

lemma Date.exists_weekStart {d : Date} {w : Weekday} (h : minDay ≤ w.weekStart d.dayNumber) :
    ∃ s : Date, s.dayNumber = w.weekStart d.dayNumber :=
  (exists_dayNumber_eq_iff h).2
    (Int.le_trans (w.weekStart_bounds d.dayNumber).1 d.representable_dayNumber.2)

lemma Moment.weekStart_eq_ok_iff {m r : Moment} {w : Weekday} :
    m.weekStart w = .ok r ↔ r.dayNumber = w.weekStart m.dayNumber ∧ r.clock = m.clock := by
  rw [weekStart, onOrBefore, shift_eq_ok_iff, Weekday.weekStart, Int.sub_eq_add_neg]

namespace Call

variable {v : Moment} {n : Numeral} {w : Weekday}

/-- A search that moves by some days, to a day on the weekday close by, reaches that day. -/
lemma search_reaches {find : Moment → Weekday → Except Cause Moment} {days k : Int}
    (h : n.value = w.index) (hfind : find v w = v.shift days)
    (hday : v.dayNumber + days = w.weekStart k) (hnear : (k - v.dayNumber).natAbs ≤ 7) :
    v.Reaches (w.weekStart k) (search find (.moment v) (.number n)) := by
  have hbounds := w.weekStart_bounds k
  rw [search, Value.requireWeekday_eq_ok _ h, ok_bind, Value.requireDate_moment, ok_bind, hfind,
    ← hday]
  refine v.reaches_shift_of_natAbs_lt ?_
  omega

lemma firstDayOfWeek_reaches (h : n.value = w.index) :
    v.Reaches (w.weekStart v.dayNumber) (firstDayOfWeek (.moment v) (.number n)) :=
  search_reaches h rfl (Int.sub_eq_add_neg).symm (by omega)

lemma firstDayOfWeek_eq_ok_iff (h : n.value = w.index) {r : Moment} :
    firstDayOfWeek (.moment v) (.number n) = .ok r ↔
      r.dayNumber = w.weekStart v.dayNumber ∧ r.clock = v.clock :=
  (firstDayOfWeek_reaches h).eq_ok_iff

/-- A week that starts before the first day has no first date. -/
lemma firstDayOfWeek_error (h : n.value = w.index) (hstart : w.weekStart v.dayNumber < minDay) :
    ∃ f, firstDayOfWeek (.moment v) (.number n) = .error f ∧ f.kind = .range := by
  have hreaches := firstDayOfWeek_reaches (v := v) h
  obtain ⟨f, hf⟩ := hreaches.exists_error_iff.2 fun hday => Int.not_lt.2 hday.1 hstart
  exact ⟨f, hf, (hreaches.refusal hf).1⟩

end Call

end BusinessCalendar
