import BusinessCalendar.Call.FiscalYear
import BusinessCalendar.Proofs.Gregorian.MonthLine
import BusinessCalendar.Proofs.Week.Line

/-!
# Where a fiscal year comes from

A fiscal year is made from a start, a nominal date and a first weekday, and its length is either
given or derived.  A derived length is measured between two weeks, that of the nominal date and that
of the same date a year later.  **The second starts 52 or 53 weeks after the first**
(`weekStart_sameDayNextYear`), so that a year which starts with the week of its nominal date ends
just before the week of the next one.

* `Date.dayNumber_sameDayNextYear` — the same date a year later is 364 to 366 days away.
* `FiscalYear.exists_alignBack_iff` — which starts can be aligned.
* `FiscalYear.build_eq_ok_iff`, `FiscalYear.derivedLong_eq` — what is built, and with what length.
* `FiscalYear.next_spec`, `FiscalYear.exists_next_iff` — the year after any fiscal year, and whether
  there is one.
* `FiscalYear.OnCourse` — the years with a derived length that start with the week of their nominal
  date; `FiscalYear.derive_onCourse` makes them, `FiscalYear.OnCourse.next` goes on.
-/

namespace BusinessCalendar

/-! ## The same date a year later -/

lemma daysInMonth_february (year : Int) :
    daysInMonth year 2 = if isLeap year then 29 else 28 := by
  rw [daysInMonth]
  cases isLeap year <;> rfl

lemma isLeap_succ {year : Int} (h : isLeap year) : isLeap (year + 1) = false := by
  simp only [isLeap, Bool.and_eq_true, Bool.or_eq_true, beq_iff_eq, bne_iff_ne] at h
  simp only [isLeap, Bool.and_eq_false_iff, beq_eq_false_iff_ne]
  omega

namespace Date

variable {d : Date} (h : d.year < maxYear)

/-- No two years in a row have a 29 February, and all other days of a month come back every year. -/
lemma sameDayNextYear_day :
    (d.sameDayNextYear h).day = if d.month = 2 ∧ d.day = 29 then 28 else d.day := by
  obtain ⟨-, ⟨hm₁, hm₂⟩, hday⟩ := d.valid
  simp only [sameDayNextYear]
  by_cases hfebruary : d.month = 2
  · rw [hfebruary, daysInMonth_february] at hday
    rw [hfebruary, daysInMonth_february]
    by_cases hleap : isLeap d.year = true
    · rw [if_pos hleap] at hday
      rw [isLeap_succ hleap]
      simp only [Bool.false_eq_true, if_false, true_and]
      omega
    · rw [if_neg hleap] at hday
      simp only [true_and]
      omega
  · have hthis := daysInMonth_cases d.year hm₁ hm₂
    have hnext := daysInMonth_cases (d.year + 1) hm₁ hm₂
    rw [if_neg (fun hboth => hfebruary hboth.1)]
    omega

/-- From 29 February to 28 February it can be one day short of a year. -/
lemma dayNumber_sameDayNextYear :
    d.dayNumber + 364 ≤ (d.sameDayNextYear h).dayNumber ∧
      (d.sameDayNextYear h).dayNumber ≤ d.dayNumber + 366 := by
  have hmonths := twelve_months (monthNumber d.year d.month)
  have hnumber : monthNumber (d.year + 1) d.month = monthNumber d.year d.month + 12 := by
    simp only [monthNumber]
    omega
  have hday := sameDayNextYear_day h
  rw [dayNumber, dayNumber, dayNumber_eq_daysBeforeMonth d.valid.2.1,
    dayNumber_eq_daysBeforeMonth (d.sameDayNextYear h).valid.2.1, hday]
  simp only [sameDayNextYear, hnumber]
  split <;> omega

lemma sameDayNextYear_yearly {year month day : Int} {hy : minYear ≤ year ∧ year ≤ maxYear}
    {hday : (1 ≤ month ∧ month ≤ 12) ∧ 1 ≤ day ∧ day ≤ 28}
    (h : (yearly year month day hy hday).year < maxYear) :
    (yearly year month day hy hday).sameDayNextYear h =
      yearly (year + 1) month day ⟨Int.le_add_one hy.1, h⟩ hday := by
  have hmonth := (daysInMonth_bounds (year + 1) hday.1.1 hday.1.2).1
  refine Date.ext ?_
  simp only [sameDayNextYear, yearly, YearMonthDay.mk.injEq, true_and]
  omega

end Date

/-- **From the week of a date to the week of the same date a year later it is 52 or 53 weeks.** -/
theorem weekStart_sameDayNextYear (w : Weekday) {d : Date} (h : d.year < maxYear) :
    w.weekStart (d.sameDayNextYear h).dayNumber = w.weekStart d.dayNumber + 364 ∨
      w.weekStart (d.sameDayNextYear h).dayNumber = w.weekStart d.dayNumber + 371 := by
  have hdays := Date.dayNumber_sameDayNextYear h
  have hthis := w.weekStart_bounds d.dayNumber
  have hnext := w.weekStart_bounds (d.sameDayNextYear h).dayNumber
  have hweeks := w.weekStart_sub_weekStart d.dayNumber (d.sameDayNextYear h).dayNumber
  omega

namespace FiscalYear

variable {y : FiscalYear} {start nominal aligned : Date} {w : Weekday}

lemma start_le_lastDay (y : FiscalYear) : y.start.dayNumber ≤ y.lastDay := by
  rw [lastDay, weeks]
  split <;> omega

/-- A fiscal year has whole weeks, so the day after it is on the first weekday again. -/
lemma onDay_lastDay_succ (y : FiscalYear) : Weekday.onDay (y.lastDay + 1) = y.firstWeekday := by
  have hstart : Weekday.onDay y.start.dayNumber = y.firstWeekday := y.start_weekday
  rw [← hstart, Eq.comm, Weekday.onDay_eq_onDay_iff, lastDay]
  omega

/-! ## Building a year -/

lemma alignBack_eq_ok_iff {s : { s : Date // s.weekday = w }} :
    alignBack start w = .ok s ↔ s.val.dayNumber = w.weekStart start.dayNumber := by
  rw [alignBack]
  split
  · rename_i m hm
    have hday := (Moment.weekStart_eq_ok_iff.1 hm).1
    constructor
    · rintro heq
      cases heq
      exact hday
    · intro hs
      exact congrArg Except.ok (Subtype.ext (Date.dayNumber_inj (hday.trans hs.symm)))
  · rename_i c hc
    constructor
    · intro heq
      cases heq
    · intro hs
      have hm : (Moment.ofDate start).weekStart w = .ok (.ofDate s.val) :=
        Moment.weekStart_eq_ok_iff.2 ⟨hs, rfl⟩
      rw [hm] at hc
      cases hc

lemma exists_alignBack_iff :
    (∃ s, alignBack start w = .ok s) ↔ minDay ≤ w.weekStart start.dayNumber := by
  simp only [alignBack_eq_ok_iff]
  constructor
  · rintro ⟨s, hs⟩
    rw [← hs]
    exact s.val.representable_dayNumber.1
  · intro h
    obtain ⟨s, hs⟩ := Date.exists_weekStart h
    exact ⟨⟨s, by rw [Date.weekday, hs, w.onDay_weekStart]⟩, hs⟩

lemma alignBack_eq_error {c : Cause} (h : alignBack start w = .error c) :
    c = .resultOutOfRange (Moment.ofDate start).iso (-w.daysBackward start.dayNumber : Int) := by
  rw [alignBack] at h
  split at h
  · cases h
  · rename_i d hd
    cases h
    rw [Moment.weekStart, Moment.onOrBefore, Moment.shift] at hd
    split at hd
    · cases hd
    · cases hd
      rfl

lemma alignBack_writable {c : Cause} (h : alignBack start w = .error c) : c.Writable := by
  have hback := w.daysBackward_bounds start.dayNumber
  rw [alignBack_eq_error h]
  refine Cause.writable_resultOutOfRange_iff.2 (Numeral.writable_of_natAbs_lt ?_)
  rw [Numeral.value_plain]
  omega

/-- What a year is made by, step by step. -/
lemma build_outcome (long : Date → Outcome Bool) :
    (build start nominal w long).outcome = (do
      let s ← alignBack start w
      let b ← long s.val
      return { start := s.val, firstWeekday := w, long := b, nominalStart := nominal
               start_weekday := s.property }) := by
  rw [build]
  cases alignBack start w with
  | error c => rfl
  | ok s => rfl

lemma build_eq_ok_iff {long : Date → Outcome Bool} :
    (build start nominal w long).outcome = .ok y ↔
      (y.firstWeekday = w ∧ y.nominalStart = nominal ∧
        y.start.dayNumber = w.weekStart start.dayNumber) ∧ long y.start = .ok y.long := by
  simp only [build_outcome, bind_eq_ok_iff, liftM_eq_ok_iff, alignBack_eq_ok_iff, pure_eq_ok,
    Except.ok.injEq]
  constructor
  · rintro ⟨s, hs, b, hb, rfl⟩
    exact ⟨⟨rfl, rfl, hs⟩, hb⟩
  · rintro ⟨⟨rfl, rfl, hstart⟩, hlong⟩
    exact ⟨⟨y.start, y.start_weekday⟩, hstart, y.long, hlong, rfl⟩

/-! ## Derived lengths -/

/-- Only a nominal date in the last year has no week a year later to measure to. -/
lemma derivedLong_eq (h : nominal.year < maxYear) :
    derivedLong aligned nominal w =
      .ok (364 < w.weekStart (nominal.sameDayNextYear h).dayNumber - aligned.dayNumber) := by
  have hdays := Date.dayNumber_sameDayNextYear h
  have hweek := w.weekStart_bounds (nominal.sameDayNextYear h).dayNumber
  have hfirst : minDay ≤ w.weekStart (nominal.sameDayNextYear h).dayNumber := by
    have := nominal.representable_dayNumber.1
    omega
  obtain ⟨s, hs⟩ := Date.exists_weekStart hfirst
  have hnext : (Moment.ofDate (nominal.sameDayNextYear h)).weekStart w = .ok (.ofDate s) :=
    Moment.weekStart_eq_ok_iff.2 ⟨hs, rfl⟩
  rw [derivedLong, dif_pos h, hnext, ok_bind, Moment.dayNumber_ofDate, hs]
  rfl

lemma derivedLong_maxYear (h : ¬nominal.year < maxYear) :
    derivedLong aligned nominal w = .ok false :=
  dif_neg h

lemma exists_derivedLong (aligned nominal : Date) (w : Weekday) :
    ∃ long, derivedLong aligned nominal w = .ok long := by
  by_cases h : nominal.year < maxYear
  · exact ⟨_, derivedLong_eq h⟩
  · exact ⟨false, derivedLong_maxYear h⟩

lemma derive_eq_ok_iff :
    (derive start nominal w).outcome = .ok y ↔
      (y.firstWeekday = w ∧ y.nominalStart = nominal ∧
        y.start.dayNumber = w.weekStart start.dayNumber) ∧
      derivedLong y.start nominal w = .ok y.long := by
  rw [derive, build_eq_ok_iff]
  exact and_congr_right fun _ => liftM_eq_ok_iff

lemma exists_derive (nominal : Date) (h : minDay ≤ w.weekStart start.dayNumber) :
    ∃ y, (derive start nominal w).outcome = .ok y := by
  obtain ⟨s, hs⟩ := exists_alignBack_iff.2 h
  obtain ⟨long, hlong⟩ := exists_derivedLong s.val nominal w
  exact ⟨⟨s.val, w, long, nominal, s.property⟩,
    derive_eq_ok_iff.2 ⟨⟨rfl, rfl, alignBack_eq_ok_iff.1 hs⟩, hlong⟩⟩

/-- The year has the length that derives from its start and its nominal date. -/
def LengthDerived (y : FiscalYear) : Prop :=
  derivedLong y.start y.nominalStart y.firstWeekday = .ok y.long

lemma derive_lengthDerived (hy : (derive start nominal w).outcome = .ok y) : y.LengthDerived := by
  obtain ⟨⟨rfl, rfl, -⟩, hlong⟩ := derive_eq_ok_iff.1 hy
  exact hlong

lemma LengthDerived.weeks_eq (hlong : y.LengthDerived) (h : y.nominalStart.year < maxYear) :
    y.weeks = if 364 < y.firstWeekday.weekStart (y.nominalStart.sameDayNextYear h).dayNumber -
      y.start.dayNumber then 53 else 52 := by
  rw [LengthDerived, derivedLong_eq h, Except.ok.injEq] at hlong
  rw [weeks, ← hlong]
  simp only [decide_eq_true_eq]

/-! ## The year after -/

/-- What the year after a fiscal year is, and that there is one unless a step on the way to it
fails. -/
lemma next_eq_ok_iff {z : FiscalYear} :
    y.next.outcome = .ok z ↔
      ∃ (h : y.nominalStart.year < maxYear) (stop first : Date), y.stop = .ok stop ∧
        first.dayNumber = stop.dayNumber + 1 ∧
        (derive first (y.nominalStart.sameDayNextYear h) y.firstWeekday).outcome = .ok z := by
  rw [next]
  split
  · rename_i h
    cases hstop : y.stop with
    | error c => simp [Logged.silent, raise]
    | ok stop =>
      simp only [Except.ok.injEq, ← Date.atDay_eq_ok_iff]
      cases hfirst : Date.atDay (stop.dayNumber + 1) with
      | error c => simp [hfirst, Logged.silent, raise]
      | ok first => simp [hfirst, h]
  · rename_i h
    simp [h, Logged.silent, raise]

variable {z : FiscalYear}

/-- The year after starts on the day after, whatever the length of this one, and derives its own. -/
lemma next_spec (hz : y.next.outcome = .ok z) :
    z.firstWeekday = y.firstWeekday ∧ z.start.dayNumber = y.lastDay + 1 ∧
      (∃ h, z.nominalStart = y.nominalStart.sameDayNextYear h) ∧ z.LengthDerived := by
  obtain ⟨h, stop, first, hstop, hfirst, hderive⟩ := next_eq_ok_iff.1 hz
  obtain ⟨⟨hweekday, hnominal, hstart⟩, -⟩ := derive_eq_ok_iff.1 hderive
  rw [Date.atDay_eq_ok_iff.1 hstop] at hfirst
  rw [hfirst, Weekday.weekStart_of_onDay _ y.onDay_lastDay_succ] at hstart
  exact ⟨hweekday, hstart, ⟨h, hnominal⟩, derive_lengthDerived hderive⟩

lemma exists_stop_of_next (hz : y.next.outcome = .ok z) :
    ∃ stop, y.stop = .ok stop ∧ z.start.dayNumber = stop.dayNumber + 1 := by
  obtain ⟨-, stop, -, hstop, -⟩ := next_eq_ok_iff.1 hz
  refine ⟨stop, hstop, ?_⟩
  rw [(next_spec hz).2.1, Date.atDay_eq_ok_iff.1 hstop]

/-- There is a year after unless its nominal date or its first day is past the calendar. -/
lemma exists_next_iff :
    (∃ z, y.next.outcome = .ok z) ↔ y.nominalStart.year < maxYear ∧ y.lastDay < maxDay := by
  constructor
  · rintro ⟨z, hz⟩
    obtain ⟨-, hstart, ⟨h, -⟩, -⟩ := next_spec hz
    have := z.start.representable_dayNumber.2
    exact ⟨h, by omega⟩
  · rintro ⟨h, hlast⟩
    have hlow := Int.le_trans y.start.representable_dayNumber.1 y.start_le_lastDay
    obtain ⟨stop, hstop⟩ := (Date.exists_dayNumber_eq_iff hlow).2 (Int.le_of_lt hlast)
    obtain ⟨first, hfirst⟩ := (Date.exists_dayNumber_eq_iff (n := y.lastDay + 1) (by omega)).2 hlast
    have hweek : minDay ≤ y.firstWeekday.weekStart first.dayNumber := by
      rw [hfirst, Weekday.weekStart_of_onDay _ y.onDay_lastDay_succ]
      omega
    obtain ⟨z, hz⟩ := exists_derive (y.nominalStart.sameDayNextYear h) hweek
    refine ⟨z, next_eq_ok_iff.2 ⟨h, stop, first, Date.atDay_eq_ok_iff.2 hstop, ?_, hz⟩⟩
    rw [hfirst, hstop]

/-! ## Years on course -/

/-- A fiscal year that starts with the week of its nominal date and ends just before the week of the
same date a year later. -/
structure OnCourse (y : FiscalYear) : Prop where
  start_eq : y.start.dayNumber = y.firstWeekday.weekStart y.nominalStart.dayNumber
  lastDay_succ : ∀ h : y.nominalStart.year < maxYear,
    y.lastDay + 1 = y.firstWeekday.weekStart (y.nominalStart.sameDayNextYear h).dayNumber

/-- A year of derived length is on course when it starts with the week of its nominal date. -/
lemma LengthDerived.onCourse (hlong : y.LengthDerived)
    (hstart : y.start.dayNumber = y.firstWeekday.weekStart y.nominalStart.dayNumber) :
    y.OnCourse := by
  refine ⟨hstart, fun h => ?_⟩
  have hweeks := hlong.weeks_eq h
  rw [lastDay, hweeks]
  rcases weekStart_sameDayNextYear y.firstWeekday h with hnext | hnext
  · rw [if_neg (by omega)]
    omega
  · rw [if_pos (by omega)]
    omega

lemma derive_onCourse (hy : (derive start nominal w).outcome = .ok y)
    (hstart : w.weekStart start.dayNumber = w.weekStart nominal.dayNumber) : y.OnCourse := by
  obtain ⟨⟨rfl, rfl, hday⟩, -⟩ := derive_eq_ok_iff.1 hy
  exact (derive_lengthDerived hy).onCourse (hday.trans hstart)

namespace OnCourse

/-- The year after starts on the day after, with the week of its own nominal date. -/
lemma next (hy : y.OnCourse) (hz : y.next.outcome = .ok z) :
    z.OnCourse ∧ z.firstWeekday = y.firstWeekday ∧ z.start.dayNumber = y.lastDay + 1 ∧
      ∃ h, z.nominalStart = y.nominalStart.sameDayNextYear h := by
  obtain ⟨hweekday, hstart, ⟨h, hnominal⟩, hlong⟩ := next_spec hz
  refine ⟨hlong.onCourse ?_, hweekday, hstart, h, hnominal⟩
  rw [hstart, hy.lastDay_succ h, hweekday, hnominal]

lemma exists_next (hy : y.OnCourse) (h : y.nominalStart.year < maxYear) :
    ∃ z, y.next.outcome = .ok z := by
  -- the day after the last one is a date, since the nominal date of the next year is one
  have hnext := hy.lastDay_succ h
  have hhigh := Int.le_trans (y.firstWeekday.weekStart_bounds _).1
    (y.nominalStart.sameDayNextYear h).representable_dayNumber.2
  exact exists_next_iff.2 ⟨h, by omega⟩

/-- The years of a run end with the calendar, and not before. -/
lemma next_error_iff (hy : y.OnCourse) :
    (∃ f, y.next.outcome = .error f) ↔ y.nominalStart.year = maxYear := by
  have hyear := y.nominalStart.valid.1.2
  constructor
  · rintro ⟨f, hf⟩
    by_contra hne
    obtain ⟨z, hz⟩ := hy.exists_next (by omega)
    rw [hz] at hf
    cases hf
  · intro heq
    rw [FiscalYear.next, dif_neg (by omega)]
    exact ⟨_, rfl⟩

end OnCourse

end FiscalYear

namespace Call

variable {v : Moment} {firstWeekday : Value}

/-- A fiscal year whose length is not given derives it from its start. -/
lemma fiscalYear_eq {w : Weekday} (hw : firstWeekday.requireWeekday "first_weekday" = .ok w) :
    fiscalYear (.moment v) firstWeekday = FiscalYear.derive v.date v.date w := by
  simp only [fiscalYear, fiscalYearParts, Value.requireDate_moment, hw, ok_bind, pure_eq_ok]
  rfl

lemma fiscalYear_eq_ok_iff {y : FiscalYear} :
    (fiscalYear (.moment v) firstWeekday).outcome = .ok y ↔
      ∃ w, firstWeekday.requireWeekday "first_weekday" = .ok w ∧
        (FiscalYear.derive v.date v.date w).outcome = .ok y := by
  cases hw : firstWeekday.requireWeekday "first_weekday" with
  | error f =>
    simp [fiscalYear, fiscalYearParts, hw, Logged.silent]
  | ok w =>
    rw [fiscalYear_eq hw]
    simp

end Call

end BusinessCalendar
