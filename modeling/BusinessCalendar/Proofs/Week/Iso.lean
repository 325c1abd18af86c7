import BusinessCalendar.Call.Week
import BusinessCalendar.Proofs.Gregorian.Correspondence
import BusinessCalendar.Proofs.Week.Line

/-!
# ISO weeks and Mondays

The week of a day is found by way of its Thursday, the Monday of a week by way of 4 January, and the
number of weeks of a year by the weekday of 1 January.  All three describe one line of weeks: **a day
has the year and the week whose seven days hold it** (`IsoWeek.ofDay_eq_iff`), and **ISO weeks and
Mondays correspond, in order** (`isoWeeks_correspond_to_mondays`).

* `IsoWeek.mondayDay_next_year` — the weeks of a year end where those of the next year begin.
* `IsoWeek.thursdayOf_representable` — the Thursday of a date's week is a date.
-/

namespace BusinessCalendar

/-! ## The line of ISO weeks -/

lemma isoWeeksInYear_eq (y : Int) :
    isoWeeksInYear y =
      if newYearsDay y % 7 = 3 ∨ (newYearsDay y % 7 = 2 ∧ isLeap y = true) then 53 else 52 := by
  simp only [isoWeeksInYear, Weekday.onDay_eq_iff, Weekday.index]

namespace IsoWeek

lemma thursdayOf_eq (n : Int) : thursdayOf n = Weekday.monday.weekStart n + 3 := by
  simp only [thursdayOf, Weekday.weekStart, Weekday.daysBackward, Weekday.index, Int.sub_zero]

lemma mondayDay_eq (year week : Int) :
    mondayDay year week = Weekday.monday.weekStart (newYearsDay year + 3) + (week - 1) * 7 := by
  have hfourth : (YearMonthDay.mk year 1 4).dayNumber = newYearsDay year + 3 := by
    simp only [newYearsDay, YearMonthDay.dayNumber]
    omega
  simp only [mondayDay, hfourth, Weekday.weekStart, Weekday.daysBackward, Weekday.index,
    Int.sub_zero]

lemma onDay_mondayDay (year week : Int) : Weekday.onDay (mondayDay year week) = .monday := by
  have hone := Weekday.monday.onDay_weekStart (newYearsDay year + 3)
  rw [Weekday.onDay_eq_iff] at hone ⊢
  rw [mondayDay_eq]
  omega

/-- The first Thursday of a year is one of its first seven days. -/
lemma thursday_mem_year (year : Int) :
    newYearsDay year ≤ mondayDay year 1 + 3 ∧ mondayDay year 1 + 3 < newYearsDay year + 7 := by
  have hbounds := Weekday.monday.weekStart_bounds (newYearsDay year + 3)
  rw [mondayDay_eq]
  omega

/-- **The weeks of a year end where those of the next year begin.** -/
theorem mondayDay_next_year (year : Int) :
    mondayDay (year + 1) 1 = mondayDay year (isoWeeksInYear year + 1) := by
  have hnext := newYearsDay_succ year
  rw [mondayDay_eq, mondayDay_eq, isoWeeksInYear_eq]
  simp only [Weekday.weekStart, Weekday.daysBackward, Weekday.index]
  cases hleap : isLeap year with
  | false =>
    simp only [hleap, Bool.false_eq_true, if_false] at hnext
    simp only [Bool.false_eq_true, and_false, or_false]
    split_ifs <;> omega
  | true =>
    simp only [hleap, if_true] at hnext
    simp only [and_true]
    split_ifs <;> omega

/-- The Thursday of a week that a year has is a day of that year, and so is no other Thursday. -/
lemma thursday_mem_year_iff {year week : Int} :
    (newYearsDay year ≤ mondayDay year week + 3 ∧
        mondayDay year week + 3 < newYearsDay (year + 1)) ↔
      1 ≤ week ∧ week ≤ isoWeeksInYear year := by
  have hfirst := thursday_mem_year year
  have hnext := thursday_mem_year (year + 1)
  rw [mondayDay_next_year] at hnext
  simp only [mondayDay_eq] at hfirst hnext ⊢
  omega

/-- **A day has the year and the week whose seven days hold it.** -/
theorem ofDay_eq_iff {n year week : Int} :
    ofDay n = { year, week } ↔
      (1 ≤ week ∧ week ≤ isoWeeksInYear year) ∧
        mondayDay year week ≤ n ∧ n < mondayDay year week + 7 := by
  have hweek := Weekday.monday.weekStart_eq_iff (n := n) (s := mondayDay year week)
  simp only [onDay_mondayDay, true_and] at hweek
  rw [← hweek, ← thursday_mem_year_iff, ofDay, mk.injEq]
  have hfirst := thursday_mem_year year
  have hthursday := thursdayOf_eq n
  have hmonday := Weekday.monday.weekStart_sub_weekStart (newYearsDay year + 3) n
  have hone := mondayDay_eq year 1
  have hwk := mondayDay_eq year week
  constructor
  · rintro ⟨hyear, hnumber⟩
    rw [hyear] at hnumber
    rw [YearMonthDay.ofDay_year_eq_iff] at hyear
    omega
  · rintro ⟨hinside, hstart⟩
    have hyear : (YearMonthDay.ofDay (thursdayOf n)).year = year := by
      rw [YearMonthDay.ofDay_year_eq_iff]
      omega
    refine ⟨hyear, ?_⟩
    rw [hyear]
    omega

lemma ofDay_spec (n : Int) :
    (1 ≤ (ofDay n).week ∧ (ofDay n).week ≤ isoWeeksInYear (ofDay n).year) ∧
      mondayDay (ofDay n).year (ofDay n).week ≤ n ∧
      n < mondayDay (ofDay n).year (ofDay n).week + 7 :=
  ofDay_eq_iff.1 rfl

/-! ## The order of ISO weeks -/

/-- The place of an ISO week in their order: the year decides before the week. -/
def chronology (w : IsoWeek) : Lex (Int × Int) := toLex (w.year, w.week)

lemma thursdayOf_mono {m n : Int} (h : m ≤ n) : thursdayOf m ≤ thursdayOf n := by
  rw [thursdayOf_eq, thursdayOf_eq]
  exact Int.add_le_add_right (Weekday.monday.weekStart_mono h) 3

/-- Later days lie in the same or in later weeks. -/
lemma chronology_mono {m n : Int} (h : m ≤ n) : (ofDay m).chronology ≤ (ofDay n).chronology := by
  have hthursday := thursdayOf_mono h
  have hyear := YearMonthDay.ofDay_year_mono hthursday
  rw [chronology, chronology, Prod.Lex.toLex_le_toLex]
  rcases Int.lt_or_eq_of_le hyear with hlt | heq
  · exact .inl hlt
  · refine .inr ⟨heq, ?_⟩
    simp only [ofDay, heq]
    omega

/-! ## Weeks of representable years -/

/-- The Thursday of a date's week is a date, at both ends of the representable days. -/
lemma thursdayOf_representable {n : Int} (h : Representable n) :
    Representable (thursdayOf n) := by
  rw [Representable, minDay, maxDay] at h ⊢
  simp only [thursdayOf, Weekday.index]
  omega

variable {year week : Int}

/-- The Monday of a week of a representable year is a date. -/
lemma mondayDay_representable (hy : minYear ≤ year ∧ year ≤ maxYear)
    (hw : 1 ≤ week ∧ week ≤ isoWeeksInYear year) : Representable (mondayDay year week) := by
  have hbegin := newYearsDay_nonneg hy.1
  have hend := newYearsDay_succ_le hy.2
  have hinside := (thursday_mem_year_iff.2 hw).2
  have hfirst : Weekday.monday.weekStart 0 ≤ Weekday.monday.weekStart (newYearsDay year + 3) :=
    Weekday.monday.weekStart_mono (by rw [minDay] at hbegin; omega)
  rw [show Weekday.monday.weekStart 0 = 0 by decide] at hfirst
  rw [Representable, mondayDay_eq, minDay]
  rw [mondayDay_eq] at hinside
  omega

/-- The Sunday of such a week is a date, but for the last week of the last year. -/
lemma sundayDay_representable_iff (hy : minYear ≤ year ∧ year ≤ maxYear)
    (hw : 1 ≤ week ∧ week ≤ isoWeeksInYear year) :
    Representable (mondayDay year week + 6) ↔ ¬(year = 9999 ∧ week = 52) := by
  have hmonday := mondayDay_representable hy hw
  rw [Representable] at hmonday ⊢
  rcases Int.lt_or_eq_of_le hy.2 with hbefore | rfl
  · -- the week ends before the first Thursday of the next year
    have hnext := thursday_mem_year (year + 1)
    have hend := newYearsDay_succ_le (y := year + 1) hbefore
    have hstep := newYearsDay_step (year + 1)
    have hinside := hw.2
    rw [mondayDay_next_year] at hnext
    rw [mondayDay_eq] at hnext hmonday ⊢
    rw [maxYear] at hbefore
    omega
  · have hlast : mondayDay maxYear 52 = maxDay - 4 := by decide
    have hweeks : isoWeeksInYear maxYear = 52 := by decide
    rw [mondayDay_eq] at hlast hmonday ⊢
    rw [hweeks] at hw
    rw [maxYear] at hlast hmonday ⊢
    omega

end IsoWeek

/-! ## On the calls -/

namespace Call

variable {y w : Numeral} {d : Date}

lemma isoWeeksInYear_eq_ok (hy : minYear ≤ y.value ∧ y.value ≤ maxYear) :
    isoWeeksInYear (.number y) = .ok (BusinessCalendar.isoWeeksInYear y.value) := by
  rw [isoWeeksInYear, Value.requireYear_eq_ok _ hy, ok_bind, pure_eq_ok]

lemma isoWeekOf_moment (v : Moment) :
    isoWeekOf (.moment v) = .ok (IsoWeek.ofDay v.dayNumber) := rfl

lemma isoWeekMonday_eq_ok (hw : 1 ≤ w.value ∧ w.value ≤ BusinessCalendar.isoWeeksInYear y.value) :
    IsoWeek.monday y.value w = .ok (IsoWeek.mondayDay y.value w.value) := by
  rw [IsoWeek.monday]
  exact if_pos hw

variable (hy : minYear ≤ y.value ∧ y.value ≤ maxYear)
  (hw : 1 ≤ w.value ∧ w.value ≤ BusinessCalendar.isoWeeksInYear y.value)

include hy hw

lemma firstDateOfIsoWeek_eq_ok_iff :
    firstDateOfIsoWeek (.number y) (.number w) = .ok d ↔
      d.dayNumber = IsoWeek.mondayDay y.value w.value := by
  rw [firstDateOfIsoWeek, Value.requireYear_eq_ok _ hy, ok_bind, Value.requireInt_number, ok_bind,
    liftM_eq_ok_iff, IsoWeek.firstDate, isoWeekMonday_eq_ok hw, ok_bind, Date.atDay_eq_ok_iff]

lemma lastDateOfIsoWeek_eq_ok_iff :
    lastDateOfIsoWeek (.number y) (.number w) = .ok d ↔
      d.dayNumber = IsoWeek.mondayDay y.value w.value + 6 := by
  rw [lastDateOfIsoWeek, Value.requireYear_eq_ok _ hy, ok_bind, Value.requireInt_number, ok_bind,
    liftM_eq_ok_iff, IsoWeek.lastDate, isoWeekMonday_eq_ok hw, ok_bind, Date.atDay_eq_ok_iff]

/-- A week of a representable year starts on a date. -/
lemma exists_firstDateOfIsoWeek :
    ∃ monday, firstDateOfIsoWeek (.number y) (.number w) = .ok monday ∧
      monday.dayNumber = IsoWeek.mondayDay y.value w.value := by
  have hmonday := IsoWeek.mondayDay_representable hy hw
  have hday := Date.dayNumber_ofDay _ hmonday
  exact ⟨_, (firstDateOfIsoWeek_eq_ok_iff hy hw).2 hday, hday⟩

lemma exists_lastDateOfIsoWeek_iff :
    (∃ sunday, lastDateOfIsoWeek (.number y) (.number w) = .ok sunday) ↔
      ¬(y.value = 9999 ∧ w.value = 52) := by
  rw [← IsoWeek.sundayDay_representable_iff hy hw]
  constructor
  · rintro ⟨sunday, hsunday⟩
    rw [← (lastDateOfIsoWeek_eq_ok_iff hy hw).1 hsunday]
    exact sunday.representable_dayNumber
  · intro hday
    exact ⟨_, (lastDateOfIsoWeek_eq_ok_iff hy hw).2 (Date.dayNumber_ofDay _ hday)⟩

end Call

/-- **ISO weeks and Mondays correspond, in order.**  Every date has an ISO week: its Thursday is a
date, of the year of that week, and the week is one of that year whose Monday comes at most six days
before the date.  Every week of a year starts on a date, a Monday; the dates of its seven days, and
no others, have that week; and it ends on a date six days later, but for week 52 of year 9999.  Later
dates have the same or later weeks. -/
theorem isoWeeks_correspond_to_mondays :
    (∀ v : Moment, ∃ w, Call.isoWeekOf (.moment v) = .ok w ∧ (1 ≤ w.year ∧ w.year ≤ 9999) ∧
      (∃ thursday, Call.fromDayNumber (.int (IsoWeek.thursdayOf v.dayNumber)) = .ok thursday ∧
        thursday.year = w.year) ∧
      (∃ weeks, Call.isoWeeksInYear (.int w.year) = .ok weeks ∧ 1 ≤ w.week ∧ w.week ≤ weeks) ∧
      ∃ monday, Call.firstDateOfIsoWeek (.int w.year) (.int w.week) = .ok monday ∧
        monday.dayNumber ≤ v.dayNumber ∧ v.dayNumber ≤ monday.dayNumber + 6) ∧
    (∀ y : Numeral, 1 ≤ y.value → y.value ≤ 9999 →
      ∃ weeks, Call.isoWeeksInYear (.number y) = .ok weeks ∧
        ∀ w : Numeral, 1 ≤ w.value → w.value ≤ weeks →
          ∃ monday, Call.firstDateOfIsoWeek (.number y) (.number w) = .ok monday ∧
            monday.weekday = .monday ∧
            (∀ v : Moment, Call.isoWeekOf (.moment v) = .ok { year := y.value, week := w.value } ↔
              monday.dayNumber ≤ v.dayNumber ∧ v.dayNumber ≤ monday.dayNumber + 6) ∧
            (∀ sunday, Call.lastDateOfIsoWeek (.number y) (.number w) = .ok sunday ↔
              sunday.dayNumber = monday.dayNumber + 6) ∧
            ((∃ sunday, Call.lastDateOfIsoWeek (.number y) (.number w) = .ok sunday) ↔
              ¬(y.value = 9999 ∧ w.value = 52))) ∧
    (∀ (v₁ v₂ : Moment) (w₁ w₂ : IsoWeek), v₁.dayNumber ≤ v₂.dayNumber →
      Call.isoWeekOf (.moment v₁) = .ok w₁ → Call.isoWeekOf (.moment v₂) = .ok w₂ →
        w₁.chronology ≤ w₂.chronology) := by
  refine ⟨fun v => ?_, fun y hy₁ hy₂ => ?_, fun v₁ v₂ w₁ w₂ hle h₁ h₂ => ?_⟩
  · have hthursday := IsoWeek.thursdayOf_representable v.representable_dayNumber
    have hyear := (YearMonthDay.ofDay_year_iff _).2 hthursday
    obtain ⟨hweek, hlow, hhigh⟩ := IsoWeek.ofDay_spec v.dayNumber
    obtain ⟨monday, hmonday, hday⟩ := @Call.exists_firstDateOfIsoWeek
      (.plain (IsoWeek.ofDay v.dayNumber).year) (.plain (IsoWeek.ofDay v.dayNumber).week) hyear hweek
    refine ⟨_, Call.isoWeekOf_moment v, hyear, ?_, ?_, monday, hmonday, ?_⟩
    · exact ⟨_, Call.fromDayNumber_eq_ok_iff.2 ⟨hthursday, rfl⟩, rfl⟩
    · exact ⟨_, Call.isoWeeksInYear_eq_ok (y := .plain _) hyear, hweek⟩
    · simp only [Numeral.value_plain] at hday
      omega
  · refine ⟨_, Call.isoWeeksInYear_eq_ok ⟨hy₁, hy₂⟩, fun w hw₁ hw₂ => ?_⟩
    have hy : minYear ≤ y.value ∧ y.value ≤ maxYear := ⟨hy₁, hy₂⟩
    have hw := And.intro hw₁ hw₂
    obtain ⟨monday, hmonday, hday⟩ := Call.exists_firstDateOfIsoWeek hy hw
    refine ⟨monday, hmonday, ?_, fun v => ?_, fun sunday => ?_, ?_⟩
    · rw [Date.weekday, hday, IsoWeek.onDay_mondayDay]
    · rw [Call.isoWeekOf_moment, Except.ok.injEq, IsoWeek.ofDay_eq_iff, hday]
      simp only [hw, and_self, true_and]
      omega
    · rw [Call.lastDateOfIsoWeek_eq_ok_iff hy hw, hday]
    · exact Call.exists_lastDateOfIsoWeek_iff hy hw
  · rw [Call.isoWeekOf_moment, Except.ok.injEq] at h₁ h₂
    rw [← h₁, ← h₂]
    exact IsoWeek.chronology_mono hle

/-- The last two ISO weeks: the second has no Sunday. -/
theorem isoWeeks_correspond_to_mondays_lastWeek :
    Call.isoWeeksInYear (.int 9999) = .ok 52 ∧
      (∃ monday, Call.firstDateOfIsoWeek (.int 9999) (.int 52) = .ok monday ∧
        monday.dayNumber = 3652054) ∧
      Call.isoWeekOf (.date ⟨⟨9999, 12, 26⟩, by decide⟩) = .ok { year := 9999, week := 51 } ∧
      Call.isoWeekOf (.date ⟨⟨9999, 12, 31⟩, by decide⟩) = .ok { year := 9999, week := 52 } ∧
      (¬∃ sunday, Call.lastDateOfIsoWeek (.int 9999) (.int 52) = .ok sunday) ∧
      (IsoWeek.mk 9999 51).chronology ≤ (IsoWeek.mk 9999 52).chronology := by
  obtain ⟨-, hyears, horder⟩ := isoWeeks_correspond_to_mondays
  have hnumber : Call.isoWeeksInYear (.int 9999) = .ok 52 := rfl
  obtain ⟨weeks, hweeks, hweek⟩ := hyears (.plain 9999) (by decide) (by decide)
  obtain rfl : weeks = 52 := Except.ok.inj (hweeks.symm.trans hnumber)
  obtain ⟨before, hbefore, -, hholds₁, -⟩ := hweek (.plain 51) (by decide) (by decide)
  obtain ⟨monday, hmonday, -, hholds₂, -, hlast⟩ := hweek (.plain 52) (by decide) (by decide)
  have hday₁ : before.dayNumber = 3652047 :=
    (Call.firstDateOfIsoWeek_eq_ok_iff (by decide) (by decide)).1 hbefore
  have hday₂ : monday.dayNumber = 3652054 :=
    (Call.firstDateOfIsoWeek_eq_ok_iff (by decide) (by decide)).1 hmonday
  have hdec26 : (Moment.ofDate ⟨⟨9999, 12, 26⟩, by decide⟩).dayNumber = 3652053 := by decide
  have hdec31 : (Moment.ofDate ⟨⟨9999, 12, 31⟩, by decide⟩).dayNumber = 3652058 := by decide
  have hweek₁ := (hholds₁ (.ofDate ⟨⟨9999, 12, 26⟩, by decide⟩)).2 (by omega)
  have hweek₂ := (hholds₂ (.ofDate ⟨⟨9999, 12, 31⟩, by decide⟩)).2 (by omega)
  exact ⟨hnumber, ⟨monday, hmonday, hday₂⟩, hweek₁, hweek₂, fun h => hlast.1 h ⟨rfl, rfl⟩,
    horder _ _ _ _ (by omega) hweek₁ hweek₂⟩

end BusinessCalendar
