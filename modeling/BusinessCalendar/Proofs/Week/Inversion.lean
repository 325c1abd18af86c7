import BusinessCalendar.Proofs.Week.Count

/-!
# Finding a week and numbering a day are inverse

Under every convention, **a year is asked for its weeks 1 to the number of its last day and for no
other; the first day inside the year of each of them has its number; and the week of a day that has a
number in its own year starts where the day's week starts** (`firstDateOfWeek_inverts_weekOfYear`).

* `WeekConvention.firstDate_eq` — a week is looked up by its place on the line of days.
* `Call.firstDateOfWeek_rejected_iff` — the weeks that a year does not have;
  `Call.firstDateOfWeek_eq_wording` — those among them that no complaint can name.
* `Call.firstDateOfWeek_eq_ok_iff` — the weeks that start on a date.
-/

namespace BusinessCalendar

variable {c : WeekConvention}

lemma WeekConvention.firstDate_eq {year : Int} (hyear : year ≤ maxYear) (week : Numeral) :
    c.firstDate year week =
      if 1 ≤ week.value ∧ c.startOfWeek year week.value < newYearsDay (year + 1) then
        Date.atDay (c.startOfWeek year week.value)
      else .error (.weekNotInYear year week c.text) := by
  simp only [firstDate, hasWeek_iff hyear]

/-! ## Weeks in words -/

/-- The weeks of a year start at most six days away from the representable days, and their numbers
are short. -/
lemma WeekConvention.startOfWeek_bounds {year week : Int}
    (hyear : minYear ≤ year ∧ year ≤ maxYear)
    (hweek : 1 ≤ week ∧ c.startOfWeek year week < newYearsDay (year + 1)) :
    (minDay - 6 ≤ c.startOfWeek year week ∧ c.startOfWeek year week ≤ maxDay) ∧
      7 * week ≤ maxDay + 14 := by
  have hone := c.startOfWeek_one_bounds year
  have hbegin := newYearsDay_nonneg hyear.1
  have hend := newYearsDay_succ_le hyear.2
  simp only [startOfWeek, minDay] at hone hweek hbegin ⊢
  omega

lemma WeekConvention.writable_of_startOfWeek_lt {year : Int} {week : Numeral}
    (hyear : minYear ≤ year ∧ year ≤ maxYear)
    (hweek : 1 ≤ week.value ∧ c.startOfWeek year week.value < newYearsDay (year + 1)) :
    week.Writable := by
  have hshort := (startOfWeek_bounds hyear hweek).2
  refine Numeral.writable_of_natAbs_lt ?_
  simp only [maxDay] at hshort
  omega

/-- The report on a week that a year does not have names the week, and a year of at most four
digits. -/
lemma Cause.writable_weekNotInYear_iff {year : Int} {week : Numeral} (convention : String)
    (hyear : minYear ≤ year ∧ year ≤ maxYear) :
    Writable (.weekNotInYear (year : Numeral) week convention) ↔ week.Writable := by
  have hwritable : (Numeral.plain year).Writable := by
    refine Numeral.writable_of_natAbs_lt ?_
    simp only [minYear, maxYear, Numeral.value_plain] at hyear ⊢
    omega
  refine List.forall_mem_cons.trans (and_iff_left ?_)
  exact List.forall_mem_singleton.2 hwritable

namespace Call

/-! ## The two calls -/

lemma weekOfYear_eq_ok_iff {v : Moment} {week : Int} :
    weekOfYear (.moment v) (.convention c) = .ok week ↔ c.weekOfDay? v.dayNumber = some week := by
  simp only [weekOfYear, Value.requireConvention_convention, Value.requireDate_moment, ok_bind,
    liftM_eq_ok_iff, WeekConvention.weekOfYear, Moment.dayNumber]
  cases c.weekOfDay? v.date.dayNumber with
  | some n => simp
  | none => simp

variable {y w : Numeral}

lemma firstDateOfWeek_eq (hy : minYear ≤ y.value ∧ y.value ≤ maxYear) :
    firstDateOfWeek (.number y) (.number w) (.convention c) = liftM (c.firstDate y.value w) := by
  rw [firstDateOfWeek, Value.requireYear_eq_ok _ hy, ok_bind, Value.requireInt_number, ok_bind,
    Value.requireConvention_convention, ok_bind]

lemma firstDateOfWeek_rejected_iff (hy : minYear ≤ y.value ∧ y.value ≤ maxYear)
    (hwritable : w.Writable) :
    (∃ f, firstDateOfWeek (.number y) (.number w) (.convention c) = .error f ∧
        f.code? = some .weekNotInYear) ↔
      ¬(1 ≤ w.value ∧ c.startOfWeek y.value w.value < newYearsDay (y.value + 1)) := by
  rw [firstDateOfWeek_eq hy, WeekConvention.firstDate_eq hy.2]
  split
  · rename_i hweek
    refine iff_of_false ?_ (not_not_intro hweek)
    rintro ⟨f, hf, hcode⟩
    obtain ⟨cause, hcause, rfl⟩ := liftM_eq_error_iff.1 hf
    rw [(Date.atDay_eq_error_iff.1 hcause).2] at hcode
    rcases Cause.fault_code?_eq (.dayNumberOutOfRange (c.startOfWeek y.value w.value : Int) minDay
      maxDay) with h | h <;> rw [h] at hcode <;> cases hcode
  · rename_i hweek
    have hcause := (Cause.writable_weekNotInYear_iff c.text hy).2 hwritable
    exact iff_of_true ⟨_, rfl, Cause.fault_code? hcause⟩ hweek

/-- A week that cannot be written out is rejected too, but there are no words to say so. -/
lemma firstDateOfWeek_eq_wording (hy : minYear ≤ y.value ∧ y.value ≤ maxYear)
    (hlong : ¬w.Writable) :
    firstDateOfWeek (.number y) (.number w) (.convention c) = .error (.wording .tooManyDigits) := by
  have hweek : ¬(1 ≤ w.value ∧ c.startOfWeek y.value w.value < newYearsDay (y.value + 1)) :=
    fun hw => hlong (WeekConvention.writable_of_startOfWeek_lt hy hw)
  have hcause := mt (Cause.writable_weekNotInYear_iff c.text hy).1 hlong
  rw [firstDateOfWeek_eq hy, WeekConvention.firstDate_eq hy.2, if_neg hweek, liftM_error,
    Cause.fault_eq_wording hcause]

/-- The weeks that start on a date: the year must have the week, and the start must be that date. -/
lemma firstDateOfWeek_eq_ok_iff_hasWeek (hy : minYear ≤ y.value ∧ y.value ≤ maxYear) {s : Date} :
    firstDateOfWeek (.number y) (.number w) (.convention c) = .ok s ↔
      (1 ≤ w.value ∧ c.startOfWeek y.value w.value < newYearsDay (y.value + 1)) ∧
        s.dayNumber = c.startOfWeek y.value w.value := by
  rw [firstDateOfWeek_eq hy, WeekConvention.firstDate_eq hy.2, liftM_eq_ok_iff]
  split
  · rename_i hweek
    rw [Date.atDay_eq_ok_iff, and_iff_right hweek]
  · rename_i hweek
    exact iff_of_false (fun hok => nomatch hok) fun hboth => hweek hboth.1

variable (hy : minYear ≤ y.value ∧ y.value ≤ maxYear)
  (hw : 1 ≤ w.value ∧ c.startOfWeek y.value w.value < newYearsDay (y.value + 1))

include hy hw

lemma firstDateOfWeek_eq_ok_iff {s : Date} :
    firstDateOfWeek (.number y) (.number w) (.convention c) = .ok s ↔
      s.dayNumber = c.startOfWeek y.value w.value := by
  rw [firstDateOfWeek_eq_ok_iff_hasWeek hy, and_iff_right hw]

lemma firstDateOfWeek_error_kind {f : Fault}
    (hf : firstDateOfWeek (.number y) (.number w) (.convention c) = .error f) :
    f.kind = .range ∧ c.startOfWeek y.value w.value < minDay := by
  rw [firstDateOfWeek_eq hy, WeekConvention.firstDate_eq hy.2, if_pos hw, liftM_eq_error_iff] at hf
  obtain ⟨cause, hcause, rfl⟩ := hf
  obtain ⟨hday, rfl⟩ := Date.atDay_eq_error_iff.1 hcause
  have hbounds := (WeekConvention.startOfWeek_bounds hy hw).1
  simp only [Representable, minDay, maxDay] at hday hbounds ⊢
  refine ⟨Cause.fault_kind (Cause.writable_dayNumberOutOfRange ?_), ?_⟩
  · omega
  · omega

lemma firstDateOfWeek_error (hstart : c.startOfWeek y.value w.value < minDay) :
    ∃ f, firstDateOfWeek (.number y) (.number w) (.convention c) = .error f ∧ f.kind = .range := by
  cases hcall : firstDateOfWeek (.number y) (.number w) (.convention c) with
  | ok s =>
    have hday := (firstDateOfWeek_eq_ok_iff hy hw).1 hcall
    have := s.representable_dayNumber.1
    omega
  | error f => exact ⟨f, rfl, (firstDateOfWeek_error_kind hy hw hcall).1⟩

/-- The first day inside the year of a week that the year has is a date of that week. -/
lemma exists_date_of_week :
    ∃ d : Date, d.dayNumber = max (c.startOfWeek y.value w.value) (newYearsDay y.value) ∧
      d.year = y.value ∧ weekOfYear (.date d) (.convention c) = .ok w.value := by
  obtain ⟨hinside, hnumber⟩ := WeekConvention.weekOfDay?_max hw.1 hw.2
  have hbegin := newYearsDay_nonneg hy.1
  have hend := newYearsDay_succ_le hy.2
  obtain ⟨d, hd⟩ := (Date.exists_dayNumber_eq_iff (Int.le_trans hbegin hinside.1)).2 (by omega)
  refine ⟨d, hd, ?_, ?_⟩
  · rw [Date.year_eq_iff, hd]
    exact hinside
  · rw [Value.date, weekOfYear_eq_ok_iff, Moment.dayNumber_ofDate, hd]
    exact hnumber

omit hy hw

/-- A date that week 1 of its year has reached lies in a week that its year has. -/
lemma exists_week_of_date {v : Moment} (hone : c.startOfWeek v.date.year 1 ≤ v.dayNumber) :
    ∃ week, weekOfYear (.moment v) (.convention c) = .ok week ∧
      (1 ≤ week ∧ c.startOfWeek v.date.year week < newYearsDay (v.date.year + 1)) ∧
      c.startOfWeek v.date.year week = c.firstWeekday.weekStart v.dayNumber := by
  have hyear : newYearsDay v.date.year ≤ v.dayNumber ∧
      v.dayNumber < newYearsDay (v.date.year + 1) :=
    v.date.dayNumber_mem_year
  have hnumber := WeekConvention.weekOfDay?_eq hyear hone
  obtain ⟨hlow, hhigh⟩ := (WeekConvention.weekOfDay?_eq_some_iff hyear hone).1 hnumber
  refine ⟨_, weekOfYear_eq_ok_iff.2 hnumber, ⟨by omega, ?_⟩, c.startOfWeek_eq_weekStart hlow hhigh⟩
  exact Int.lt_of_le_of_lt hlow hyear.2

end Call

/-! ## There and back -/

/-- **Finding a week and numbering a day are inverse.**  Of the integers a year accepts exactly those
from 1 to the number of its 31 December; one of more than 4300 digits is rejected without a code, for
want of words.  An accepted week starts on the first weekday; the day on which it starts, or 1 January
if that comes later, is a date of the year and has the number of the week; and the start is the answer
unless it comes before the first representable day.  In the other direction a day that week 1 of its
year has reached has a number, and the week of that number starts on the first day of the week that
holds the day; where that day is not representable, both calls fail. -/
theorem firstDateOfWeek_inverts_weekOfYear (c : WeekConvention) :
    (∀ (y : Numeral) (hy : 1 ≤ y.value ∧ y.value ≤ 9999),
      ∃ last, Call.weekOfYear (.date (.yearEnd y.value hy)) (.convention c) = .ok last ∧
        ∀ w : Numeral,
          (w.Writable →
            ((∃ f, Call.firstDateOfWeek (.number y) (.number w) (.convention c) = .error f ∧
              f.code? = some .weekNotInYear) ↔ w.value < 1 ∨ last < w.value)) ∧
          (¬w.Writable → (w.value < 1 ∨ last < w.value) ∧
            Call.firstDateOfWeek (.number y) (.number w) (.convention c) =
              .error (.wording .tooManyDigits)) ∧
          (1 ≤ w.value → w.value ≤ last →
            Weekday.onDay (c.startOfWeek y.value w.value) = c.firstWeekday ∧
            (∃ d : Date,
              d.dayNumber = max (c.startOfWeek y.value w.value) (newYearsDay y.value) ∧
              d.year = y.value ∧ Call.weekOfYear (.date d) (.convention c) = .ok w.value) ∧
            (∀ s, Call.firstDateOfWeek (.number y) (.number w) (.convention c) = .ok s ↔
              s.dayNumber = c.startOfWeek y.value w.value) ∧
            (∀ f, Call.firstDateOfWeek (.number y) (.number w) (.convention c) = .error f →
              f.kind = .range ∧ c.startOfWeek y.value w.value < minDay))) ∧
    (∀ v : Moment, c.startOfWeek v.date.year 1 ≤ v.dayNumber →
      ∃ w, Call.weekOfYear (.moment v) (.convention c) = .ok w ∧
        ((∃ s, Call.firstDateOfWeek (.int v.date.year) (.int w) (.convention c) = .ok s ∧
            Call.firstDayOfWeek (.moment v) (.weekday c.firstWeekday) = .ok (v.withDate s)) ∨
          (c.firstWeekday.weekStart v.dayNumber < minDay ∧
            (∃ f, Call.firstDateOfWeek (.int v.date.year) (.int w) (.convention c) = .error f ∧
              f.kind = .range) ∧
            ∃ f, Call.firstDayOfWeek (.moment v) (.weekday c.firstWeekday) = .error f ∧
              f.kind = .range))) := by
  constructor
  · intro y hy
    obtain ⟨last, hlast, hweeks⟩ := c.exists_lastWeek y.value
    have hend : (Moment.ofDate (.yearEnd y.value hy)).dayNumber = newYearsDay (y.value + 1) - 1 :=
      Date.dayNumber_yearEnd y.value hy
    refine ⟨last, Call.weekOfYear_eq_ok_iff.2 (by rw [hend, hlast]), fun w => ⟨?_, ?_, ?_⟩⟩
    · intro hwritable
      rw [Call.firstDateOfWeek_rejected_iff hy hwritable, hweeks]
      omega
    · intro hlong
      refine ⟨?_, Call.firstDateOfWeek_eq_wording hy hlong⟩
      have hw := mt (WeekConvention.writable_of_startOfWeek_lt (c := c) hy) hlong
      rw [hweeks] at hw
      omega
    · intro hw₁ hw₂
      have hw := And.intro hw₁ ((hweeks w.value).2 hw₂)
      exact ⟨c.onDay_startOfWeek _ _, Call.exists_date_of_week hy hw,
        fun s => Call.firstDateOfWeek_eq_ok_iff hy hw,
        fun f => Call.firstDateOfWeek_error_kind hy hw⟩
  · intro v hone
    obtain ⟨week, hnumber, hw, hstart⟩ := Call.exists_week_of_date hone
    have hcall := @Call.firstDateOfWeek_eq_ok_iff c (.plain v.date.year) (.plain week)
      v.date.valid.1 hw
    have hfail := @Call.firstDateOfWeek_error c (.plain v.date.year) (.plain week)
      v.date.valid.1 hw
    simp only [Numeral.value_plain, hstart] at hcall hfail
    refine ⟨week, hnumber, ?_⟩
    by_cases hbegin : minDay ≤ c.firstWeekday.weekStart v.dayNumber
    · obtain ⟨s, hs⟩ := Date.exists_weekStart hbegin
      exact .inl ⟨s, hcall.2 hs, (Call.firstDayOfWeek_eq_ok_iff rfl).2 ⟨hs, rfl⟩⟩
    · have hbefore := Int.not_le.1 hbegin
      exact .inr ⟨hbefore, hfail hbefore, Call.firstDayOfWeek_error rfl hbefore⟩

/-- Weeks from Sunday on, of which the first holds 1 January. -/
def WeekConvention.sundayFirstDay : WeekConvention := { firstWeekday := .sunday, rule := .firstDay }

/-- A leap year that starts on the last day of a week has a week 54, which is its last day alone. -/
theorem firstDateOfWeek_inverts_weekOfYear_leapYear :
    (1 ≤ (2000 : Int) ∧ (2000 : Int) ≤ 9999) ∧
      WeekConvention.sundayFirstDay.startOfWeek 2000 1 ≤ 730484 ∧
      Call.weekOfYear (.date (.yearEnd 2000 (by decide))) (.convention .sundayFirstDay) = .ok 54 ∧
      ∃ s : Date, s.dayNumber = 730484 ∧
        Call.firstDateOfWeek (.int 2000) (.int 54) (.convention .sundayFirstDay) = .ok s ∧
        Call.firstDayOfWeek (.date (.yearEnd 2000 (by decide))) (.weekday .sunday) = .ok s := by
  have hinverse := firstDateOfWeek_inverts_weekOfYear .sundayFirstDay
  have hreached : WeekConvention.sundayFirstDay.startOfWeek 2000 1 ≤ 730484 := by decide
  have hlastDay : newYearsDay 2000 ≤ 730484 ∧ (730484 : Int) < newYearsDay (2000 + 1) := by decide
  have hnumber : Call.weekOfYear (.date (.yearEnd 2000 (by decide))) (.convention .sundayFirstDay) =
      .ok 54 :=
    Call.weekOfYear_eq_ok_iff.2
      ((WeekConvention.weekOfDay?_eq_some_iff hlastDay hreached).2 (by decide))
  obtain ⟨last, hlast, hweeks⟩ := hinverse.1 (.plain 2000) (by decide)
  obtain rfl : last = 54 := Except.ok.inj (hlast.symm.trans hnumber)
  obtain ⟨-, -, hanswer, -⟩ := (hweeks (.plain 54)).2.2 (by decide) (by decide)
  obtain ⟨week, hweek, hfound⟩ := hinverse.2 (.ofDate (.yearEnd 2000 (by decide))) (by decide)
  obtain rfl : week = 54 := Except.ok.inj (hweek.symm.trans hnumber)
  rcases hfound with ⟨s, hs, hfirst⟩ | ⟨hbefore, -⟩
  · exact ⟨by decide, hreached, hnumber, s, (hanswer s).1 hs, hs, hfirst⟩
  · exact absurd hbefore (by decide)

/-- 2024 has no week with a number of 4301 digits, but that is not what is reported: the failure is a
plain error of a value. -/
theorem firstDateOfWeek_overlong :
    ¬(1 ≤ (10 : Int) ^ 4300 ∧
        WeekConvention.iso.startOfWeek 2024 (10 ^ 4300) < newYearsDay (2024 + 1)) ∧
      ∃ f, Call.firstDateOfWeek (.int 2024) (.int (10 ^ 4300)) (.convention .iso) = .error f ∧
        f.kind = .value ∧ f.code? = none := by
  have hlong : ¬(Numeral.plain (10 ^ 4300)).Writable := Numeral.not_writable_pow
  have hyear : minYear ≤ 2024 ∧ 2024 ≤ maxYear := by decide
  have hnone := mt (WeekConvention.writable_of_startOfWeek_lt (c := .iso) hyear) hlong
  rw [Numeral.value_plain] at hnone
  exact ⟨hnone, _, Call.firstDateOfWeek_eq_wording (y := .plain 2024) hyear hlong, rfl, rfl⟩

end BusinessCalendar
