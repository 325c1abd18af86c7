import BusinessCalendar.Proofs.Moment.Search

/-!
# Weeks partition the days

The first day of a week is searched for backwards, the last one forwards, towards another weekday.
**The two bound the same seven days** (`add_daysForward_pred`), so that the days fall into weeks:
each day lies in one of them, and two days lie in the same one exactly when the start of one's week
is at most six days before the other (`weekStart_eq_weekStart_iff`), or when no week starts between
them (`weekStart_eq_iff_forall_onDay_ne`).

* `Call.lastDayOfWeek_reaches` — the last day of a week, where it is not after the last date.
* **`weeks_partition_days`** — the calls.
-/

namespace BusinessCalendar

namespace Weekday

variable (w : Weekday)

/-- A week that begins on a weekday ends on the one before it, six days later. -/
lemma add_daysForward_pred (n : Int) : n + w.pred.daysForward n = w.weekStart n + 6 := by
  have hindex : w.pred.index = (w.index + 6) % 7 := index_onDay _
  simp only [weekStart, daysForward, daysBackward, hindex]
  omega

/-- Two days have one week exactly when the second lies in the seven days that start with the week
of the first. -/
lemma weekStart_eq_weekStart_iff {m n : Int} :
    w.weekStart n = w.weekStart m ↔ w.weekStart m ≤ n ∧ n < w.weekStart m + 7 := by
  rw [weekStart_eq_iff]
  exact and_iff_right (w.onDay_weekStart m)

/-- Two days have one week exactly when no week starts after the first and up to the second. -/
lemma weekStart_eq_iff_forall_onDay_ne {m n : Int} (h : m ≤ n) :
    w.weekStart m = w.weekStart n ↔ ∀ k, m < k → k ≤ n → onDay k ≠ w := by
  have hm := w.weekStart_bounds m
  have hn := w.weekStart_bounds n
  constructor
  · intro hweek k hlow hhigh hday
    have hmono := w.weekStart_mono hhigh
    rw [w.weekStart_of_onDay hday, ← hweek] at hmono
    omega
  · intro hnone
    have hstart : ¬m < w.weekStart n := fun hlow => hnone _ hlow hn.1 (w.onDay_weekStart n)
    exact w.weekStart_eq_iff.2 ⟨w.onDay_weekStart n, by omega, by omega⟩

end Weekday

namespace Call

variable {v : Moment} {n : Numeral} {w : Weekday}

lemma lastDayOfWeek_reaches (h : n.value = w.index) :
    v.Reaches (w.weekStart v.dayNumber + 6) (lastDayOfWeek (.moment v) (.number n)) := by
  rw [lastDayOfWeek, Value.requireWeekday_eq_ok _ h, ok_bind, Value.requireDate_moment, ok_bind,
    Moment.weekEnd, Moment.onOrAfter, ← w.add_daysForward_pred]
  refine v.reaches_shift_of_natAbs_lt ?_
  rw [Weekday.daysForward]
  omega

end Call

/-- The laws of the weeks that begin on a weekday. -/
structure WeeksPartition (firstWeekday : Numeral) (w : Weekday) : Prop where
  /-- A day lies in the week of the only day on the weekday at most six days back; its first and
  last day fail exactly when they are before the first date and after the last one. -/
  week : ∀ v : Moment, ∃ start,
    (∀ s, (Weekday.onDay s = w ∧ s ≤ v.dayNumber ∧ v.dayNumber < s + 7) ↔ s = start) ∧
    v.Reaches start (Call.firstDayOfWeek (.moment v) (.number firstWeekday)) ∧
    v.Reaches (start + 6) (Call.lastDayOfWeek (.moment v) (.number firstWeekday)) ∧
    ((∃ f, Call.firstDayOfWeek (.moment v) (.number firstWeekday) = .error f) ↔ start < minDay) ∧
    ((∃ f, Call.lastDayOfWeek (.moment v) (.number firstWeekday) = .error f) ↔ maxDay < start + 6)
  /-- The day lies between the two, which are six days apart. -/
  between : ∀ v first last : Moment,
    Call.firstDayOfWeek (.moment v) (.number firstWeekday) = .ok first →
    Call.lastDayOfWeek (.moment v) (.number firstWeekday) = .ok last →
      last.dayNumber = first.dayNumber + 6 ∧
        first.dayNumber ≤ v.dayNumber ∧ v.dayNumber ≤ last.dayNumber
  idempotent : ∀ v first : Moment,
    Call.firstDayOfWeek (.moment v) (.number firstWeekday) = .ok first →
      Call.firstDayOfWeek (.moment first) (.number firstWeekday) = .ok first
  monotone : ∀ u v start first : Moment,
    Call.firstDayOfWeek (.moment u) (.number firstWeekday) = .ok start →
    Call.firstDayOfWeek (.moment v) (.number firstWeekday) = .ok first →
      u.dayNumber ≤ v.dayNumber → start.dayNumber ≤ first.dayNumber
  /-- Two dates, at one time of day if they have one, are in the same week exactly when the second
  lies in the seven days from the start of the first one's week. -/
  same_week_iff : ∀ u v start first : Moment,
    Call.firstDayOfWeek (.moment u) (.number firstWeekday) = .ok start →
    Call.firstDayOfWeek (.moment v) (.number firstWeekday) = .ok first →
      (start = first ↔ u.clock = v.clock ∧
        start.dayNumber ≤ v.dayNumber ∧ v.dayNumber < start.dayNumber + 7)

/-- **Weeks partition the days.**  Each day lies in one week of seven days from the weekday on; the
first day of that week is found unless it comes before the first date, and the last day unless it
comes after the last date.  The first day of a week is its own first day, later days have later
weeks, and the days that share a first day are the seven days from it. -/
theorem weeks_partition_days (firstWeekday : Numeral) (w : Weekday)
    (h : firstWeekday.value = w.index) : WeeksPartition firstWeekday w where
  week v := by
    have hfirst := Call.firstDayOfWeek_reaches (v := v) h
    have hlast := Call.lastDayOfWeek_reaches (v := v) h
    have hbounds := w.weekStart_bounds v.dayNumber
    have hday := v.representable_dayNumber
    refine ⟨_, fun s => ?_, hfirst, hlast, ?_, ?_⟩
    · rw [← w.weekStart_eq_iff, eq_comm]
    · rw [hfirst.exists_error_iff, Representable]
      simp only [Representable] at hday
      omega
    · rw [hlast.exists_error_iff, Representable]
      simp only [Representable] at hday
      omega
  between v first last hf hl := by
    obtain ⟨hfirst, -⟩ := (Call.firstDayOfWeek_eq_ok_iff h).1 hf
    obtain ⟨hlast, -⟩ := (Call.lastDayOfWeek_reaches h).eq_ok_iff.1 hl
    have hbounds := w.weekStart_bounds v.dayNumber
    omega
  idempotent v first hf := by
    obtain ⟨hfirst, -⟩ := (Call.firstDayOfWeek_eq_ok_iff h).1 hf
    refine (Call.firstDayOfWeek_eq_ok_iff h).2 ⟨?_, rfl⟩
    rw [hfirst, w.weekStart_weekStart]
  monotone u v start first hu hv hle := by
    rw [((Call.firstDayOfWeek_eq_ok_iff h).1 hu).1, ((Call.firstDayOfWeek_eq_ok_iff h).1 hv).1]
    exact w.weekStart_mono hle
  same_week_iff u v start first hu hv := by
    obtain ⟨hstart, hclock⟩ := (Call.firstDayOfWeek_eq_ok_iff h).1 hu
    obtain ⟨hfirst, hclock'⟩ := (Call.firstDayOfWeek_eq_ok_iff h).1 hv
    rw [hstart, ← w.weekStart_eq_weekStart_iff, ← hstart, ← hfirst, ← hclock, ← hclock']
    constructor
    · rintro rfl
      exact ⟨rfl, rfl⟩
    · rintro ⟨hc, hday⟩
      exact Moment.eq_of_dayNumber_eq hday.symm hc

/-- The first date is a Monday: its week from Sunday starts the day before, which is no date, and
ends on its Saturday. -/
theorem weeks_partition_days_newYear1 :
    (Numeral.weekday .sunday).value = Weekday.sunday.index ∧
      (∃ f, Call.firstDayOfWeek (.date .newYear1) (.weekday .sunday) = .error f ∧ f.kind = .range) ∧
      ∃ last, Call.lastDayOfWeek (.date .newYear1) (.weekday .sunday) = .ok last ∧
        last.dayNumber = 5 := by
  obtain ⟨start, hstart, hfirst, hlast, hout, -⟩ :=
    (weeks_partition_days (.weekday .sunday) .sunday rfl).week (.ofDate .newYear1)
  obtain rfl : -1 = start := (hstart (-1)).1 ⟨by decide, by decide, by decide⟩
  obtain ⟨f, hf⟩ := hout.2 (by decide)
  obtain ⟨last, hl⟩ := hlast.exists_ok_iff.2 (by decide)
  exact ⟨rfl, ⟨f, hf, (hfirst.refusal hf).1⟩, last, hl, (hlast.eq_ok_iff.1 hl).1⟩

end BusinessCalendar
