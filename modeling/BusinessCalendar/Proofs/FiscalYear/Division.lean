import BusinessCalendar.Call.FiscalYear
import BusinessCalendar.Proofs.Gregorian.Counting
import BusinessCalendar.Proofs.Week.Line

/-!
# How a fiscal year is divided

Weeks, months and quarters of a fiscal year all follow from one number, the whole weeks since its
start.  **The dates from the start to the last day are the ones that the year answers for**
(`weekIndex_eq_ok_iff`), and for these the four divisions fit into each other
(`fiscalYear_divides`): weeks into months, months into quarters, quarters end to end from the start
to the last day.

* `FiscalYear.HoldsDay` — the days of the year.
* `FiscalYear.weeksBeforeMonth` — where a month starts; `sum_monthWeeks` says that these are the
  weeks of the months before.
* `FiscalYear.quarterFirst`, `FiscalYear.quarterLast` — the ends of a quarter, also of the last one,
  which takes a 53rd week.
-/

namespace BusinessCalendar

/-- The month in which a week falls is the one whose weeks it has reached and not passed; the last
month of the list is never passed. -/
lemma monthWithin_spec (ws : List Int) (week : Int) (hne : ws ≠ []) :
    ∃ i : Nat, monthWithin ws week = i ∧ i < ws.length ∧ (i = 0 ∨ (ws.take i).sum ≤ week) ∧
      (i + 1 < ws.length → week < (ws.take (i + 1)).sum) := by
  induction ws generalizing week with
  | nil => exact absurd rfl hne
  | cons x rest ih =>
    cases rest with
    | nil => exact ⟨0, rfl, by simp, .inl rfl, by simp⟩
    | cons x' rest =>
      by_cases hfirst : week < x
      · exact ⟨0, by simp [monthWithin, hfirst], by simp, .inl rfl, by simpa using hfirst⟩
      · -- the first month is passed, and the others count on from its end
        obtain ⟨i, hi, hlen, hlow, hhigh⟩ := ih (week - x) (by simp)
        refine ⟨i + 1, ?_, ?_, .inr ?_, ?_⟩
        · simp [monthWithin, hfirst, hi]
          omega
        · simpa using hlen
        · rw [List.take_succ_cons, List.sum_cons]
          rcases hlow with rfl | hlow
          · simp
            omega
          · omega
        · intro hnext
          have := hhigh (by simpa using hnext)
          rw [List.take_succ_cons, List.sum_cons]
          omega

namespace FiscalYear

variable (y : FiscalYear)

/-! ## The days of a fiscal year -/

def HoldsDay (n : Int) : Prop := y.start.dayNumber ≤ n ∧ n ≤ y.lastDay

lemma weeks_cases : y.weeks = 52 ∨ y.weeks = 53 := by
  rw [weeks]
  split
  · exact .inr rfl
  · exact .inl rfl

/-- The start is on the first weekday already, so counting weeks has nothing left to align. -/
lemma weekIndexOfDay_eq (n : Int) : y.weekIndexOfDay n = (n - y.start.dayNumber) / 7 := by
  have hstart := (Weekday.onDay_eq_iff _ _).1 y.start_weekday
  rw [weekIndexOfDay]
  omega

variable {y}

lemma holdsDay_iff {n : Int} :
    y.HoldsDay n ↔ 0 ≤ (n - y.start.dayNumber) / 7 ∧ (n - y.start.dayNumber) / 7 < y.weeks := by
  rw [HoldsDay, lastDay]
  omega

lemma exists_date_of_holdsDay (h : y.lastDay ≤ maxDay) {n : Int} (hn : y.HoldsDay n) :
    ∃ d : Date, d.dayNumber = n :=
  (Date.exists_dayNumber_eq_iff (Int.le_trans y.start.representable_dayNumber.1 hn.1)).2
    (Int.le_trans hn.2 h)

lemma stop_eq_ok_iff {d : Date} : y.stop = .ok d ↔ d.dayNumber = y.lastDay :=
  Date.atDay_eq_ok_iff

/-- A year that ends with the calendar or before has a last date. -/
lemma exists_stop_iff : (∃ stop, y.stop = .ok stop) ↔ y.lastDay ≤ maxDay := by
  have hlow : minDay ≤ y.lastDay := by
    have hstart := y.start.representable_dayNumber.1
    have hweeks := y.weeks_cases
    rw [lastDay]
    omega
  simp only [stop_eq_ok_iff]
  exact Date.exists_dayNumber_eq_iff hlow

/-- **A fiscal year answers for its own days and for no others.** -/
theorem weekIndex_eq_ok_iff {d : Date} {i : Int} :
    y.weekIndex d = .ok i ↔
      y.HoldsDay d.dayNumber ∧ (d.dayNumber - y.start.dayNumber) / 7 = i := by
  rw [holdsDay_iff, weekIndex, weekIndexOfDay_eq]
  by_cases houtside : (d.dayNumber - y.start.dayNumber) / 7 < 0 ∨
      (d.dayNumber - y.start.dayNumber) / 7 ≥ y.weeks
  · simp only [houtside, if_true, bind_eq_ok_iff, reduceCtorEq, and_false, exists_false, false_iff]
    omega
  · simp only [houtside, if_false, Except.ok.injEq]
    omega

lemma exists_weekIndex_iff {d : Date} {p : Int → Prop} :
    (∃ i, y.weekIndex d = .ok i ∧ p i) ↔
      y.HoldsDay d.dayNumber ∧ p ((d.dayNumber - y.start.dayNumber) / 7) := by
  simp only [weekIndex_eq_ok_iff, and_assoc, exists_and_left, exists_eq_left']

lemma weekOf_eq_ok_iff {d : Date} {week : Int} :
    y.weekOf d = .ok week ↔
      y.HoldsDay d.dayNumber ∧ (d.dayNumber - y.start.dayNumber) / 7 + 1 = week := by
  rw [weekOf, bind_eq_ok_iff, exists_weekIndex_iff, pure_eq_ok, Except.ok.injEq]

/-! ## Months -/

variable (y) in
/-- The weeks of a month: 5, 4 and 4 in each quarter, and in the last month also what the year has
beyond 52 weeks. -/
def monthWeeks (month : Int) : Int :=
  (if month % 3 = 1 then 5 else 4) + if month = 12 then y.weeks - 52 else 0

variable (y) in
def weeksBeforeMonth (month : Int) : Int :=
  13 * ((month - 1) / 3) + (if month % 3 = 1 then 0 else if month % 3 = 2 then 5 else 9) +
    if 12 < month then y.weeks - 52 else 0

variable (y) in
lemma sum_monthWeeks {month : Int} (h : 1 ≤ month) :
    ∑ j ∈ Finset.Ico 1 month, y.monthWeeks j = y.weeksBeforeMonth month := by
  have hstep : ∀ j, y.monthWeeks j = y.weeksBeforeMonth (j + 1) - y.weeksBeforeMonth j := by
    intro j
    rw [monthWeeks, weeksBeforeMonth, weeksBeforeMonth]
    omega
  simp only [hstep]
  rw [sum_Ico_differences y.weeksBeforeMonth h]
  simp [weeksBeforeMonth]

lemma monthWithin_fiscalMonthWeeks (week : Int) :
    monthWithin fiscalMonthWeeks week = if week < 5 then 0 else if week < 9 then 1 else 2 := by
  obtain ⟨i, hi, hlen, hlow, hhigh⟩ := monthWithin_spec fiscalMonthWeeks week (by decide)
  rw [hi]
  have : i < 3 := hlen
  interval_cases i
  · simp [fiscalMonthWeeks] at hhigh
    simp [hhigh]
  · simp [fiscalMonthWeeks] at hlow hhigh
    simp [hhigh]
    omega
  · simp [fiscalMonthWeeks] at hlow
    omega

lemma monthOfWeek_eq_iff {week month : Int} (h : 0 ≤ week) (hweek : week < y.weeks) :
    monthOfWeek week = month ↔
      (1 ≤ month ∧ month ≤ 12) ∧ y.weeksBeforeMonth month ≤ week ∧
        week < y.weeksBeforeMonth (month + 1) := by
  have hweeks := y.weeks_cases
  rw [monthOfWeek, monthWithin_fiscalMonthWeeks, weeksBeforeMonth, weeksBeforeMonth]
  omega

lemma monthOf_eq_ok_iff {d : Date} {month : Int} :
    y.monthOf d = .ok month ↔
      y.HoldsDay d.dayNumber ∧ monthOfWeek ((d.dayNumber - y.start.dayNumber) / 7) = month := by
  rw [monthOf, bind_eq_ok_iff, exists_weekIndex_iff, pure_eq_ok, Except.ok.injEq]

/-- The quarter of a week is the one that holds its month. -/
lemma quarterOfWeek_eq (week : Int) : quarterOfWeek week = (monthOfWeek week - 1) / 3 + 1 := by
  rw [quarterOfWeek, monthOfWeek, monthWithin_fiscalMonthWeeks]
  omega

/-! ## Quarters -/

variable (y) in
def quarterFirst (quarter : Int) : Int := y.start.dayNumber + (quarter - 1) * 13 * 7

variable (y) in
def quarterLast (quarter : Int) : Int :=
  if quarter = 4 then y.lastDay else y.start.dayNumber + quarter * 13 * 7 - 1

lemma quarterOf_eq_ok_iff {d : Date} {quarter : Int} :
    y.quarterOf d = .ok quarter ↔
      (1 ≤ quarter ∧ quarter ≤ 4) ∧
        y.quarterFirst quarter ≤ d.dayNumber ∧ d.dayNumber ≤ y.quarterLast quarter := by
  rw [quarterOf, bind_eq_ok_iff, exists_weekIndex_iff, pure_eq_ok, Except.ok.injEq, HoldsDay,
    lastDay, quarterFirst, quarterLast, lastDay, quarterOfWeek]
  have := y.weeks_cases
  split <;> omega

lemma startOfQuarter_eq_ok_iff {quarter : Int} {s : Date} :
    y.startOfQuarter quarter = .ok s ↔ s.dayNumber = y.quarterFirst quarter :=
  Date.atDay_eq_ok_iff

lemma quarterStart_eq_ok_iff {d s : Date} {quarter : Int} (h : y.quarterOf d = .ok quarter) :
    y.quarterStart d = .ok s ↔ s.dayNumber = y.quarterFirst quarter := by
  rw [quarterStart, h, ok_bind, startOfQuarter_eq_ok_iff]

lemma quarterStop_eq_ok_iff {d e : Date} {quarter : Int} (h : y.quarterOf d = .ok quarter) :
    y.quarterStop d = .ok e ↔ e.dayNumber = y.quarterLast quarter := by
  rw [quarterStop, h, ok_bind, quarterLast]
  split
  · exact stop_eq_ok_iff
  · exact Date.atDay_eq_ok_iff

lemma quarter_bounds {quarter : Int} (h : 1 ≤ quarter ∧ quarter ≤ 4) :
    y.start.dayNumber ≤ y.quarterFirst quarter ∧ y.quarterFirst quarter ≤ y.quarterLast quarter ∧
      y.quarterLast quarter ≤ y.lastDay := by
  rw [quarterFirst, quarterLast, lastDay]
  have := y.weeks_cases
  split <;> omega

lemma quarterFirst_succ {quarter : Int} (h : quarter ≠ 4) :
    y.quarterFirst (quarter + 1) = y.quarterLast quarter + 1 := by
  rw [quarterFirst, quarterLast, if_neg h]
  omega

lemma quarter_days (quarter : Int) :
    y.quarterLast quarter - y.quarterFirst quarter + 1 =
      if quarter = 4 ∧ y.long then 98 else 91 := by
  rw [quarterFirst, quarterLast]
  by_cases hlast : quarter = 4
  · rw [if_pos hlast, lastDay, weeks, hlast]
    simp only [true_and]
    split <;> omega
  · rw [if_neg hlast, if_neg (fun hboth => hlast hboth.1)]
    omega

/-- The days of a year are those of its quarters. -/
lemma exists_quarterOf_iff {d : Date} :
    (∃ quarter, y.quarterOf d = .ok quarter) ↔ y.HoldsDay d.dayNumber := by
  simp only [quarterOf, bind_eq_ok_iff, exists_weekIndex_iff, pure_eq_ok, Except.ok.injEq,
    exists_and_left, exists_eq', and_true]

lemma exists_quarterFirst (h : y.lastDay ≤ maxDay) {quarter : Int}
    (hq : 1 ≤ quarter ∧ quarter ≤ 4) : ∃ s : Date, s.dayNumber = y.quarterFirst quarter := by
  obtain ⟨hlow, hends, hhigh⟩ := y.quarter_bounds hq
  exact exists_date_of_holdsDay h ⟨hlow, Int.le_trans hends hhigh⟩

lemma exists_quarterLast (h : y.lastDay ≤ maxDay) {quarter : Int}
    (hq : 1 ≤ quarter ∧ quarter ≤ 4) : ∃ e : Date, e.dayNumber = y.quarterLast quarter := by
  obtain ⟨hlow, hends, hhigh⟩ := y.quarter_bounds hq
  exact exists_date_of_holdsDay h ⟨Int.le_trans hlow hends, hhigh⟩

lemma exists_quarterStart_iff (h : y.lastDay ≤ maxDay) {d : Date} :
    (∃ s, y.quarterStart d = .ok s) ↔ y.HoldsDay d.dayNumber := by
  rw [← exists_quarterOf_iff]
  constructor
  · rintro ⟨s, hs⟩
    obtain ⟨quarter, hq, -⟩ := bind_eq_ok_iff.1 hs
    exact ⟨quarter, hq⟩
  · rintro ⟨quarter, hq⟩
    obtain ⟨s, hs⟩ := exists_quarterFirst h (quarterOf_eq_ok_iff.1 hq).1
    exact ⟨s, (quarterStart_eq_ok_iff hq).2 hs⟩

lemma exists_quarterStop_iff (h : y.lastDay ≤ maxDay) {d : Date} :
    (∃ e, y.quarterStop d = .ok e) ↔ y.HoldsDay d.dayNumber := by
  rw [← exists_quarterOf_iff]
  constructor
  · rintro ⟨e, he⟩
    obtain ⟨quarter, hq, -⟩ := bind_eq_ok_iff.1 he
    exact ⟨quarter, hq⟩
  · rintro ⟨quarter, hq⟩
    obtain ⟨e, he⟩ := exists_quarterLast h (quarterOf_eq_ok_iff.1 hq).1
    exact ⟨e, (quarterStop_eq_ok_iff hq).2 he⟩

end FiscalYear

/-! ## The calls -/

namespace Call

variable {y : FiscalYear} {v : Moment}

lemma fiscalWeek_eq_ok_iff {week : Int} :
    fiscalWeek y (.moment v) = .ok week ↔
      y.HoldsDay v.dayNumber ∧ (v.dayNumber - y.start.dayNumber) / 7 + 1 = week := by
  rw [fiscalWeek, Value.requireDate_moment, ok_bind, liftM_eq_ok_iff, FiscalYear.weekOf_eq_ok_iff,
    Moment.dayNumber]

lemma exists_fiscalWeek_iff :
    (∃ week, fiscalWeek y (.moment v) = .ok week) ↔ y.HoldsDay v.dayNumber := by
  simp only [fiscalWeek_eq_ok_iff, exists_and_left, exists_eq', and_true]

lemma fiscalMonth_eq_ok_iff {month : Int} :
    fiscalMonth y (.moment v) = .ok month ↔
      y.HoldsDay v.dayNumber ∧
        FiscalYear.monthOfWeek ((v.dayNumber - y.start.dayNumber) / 7) = month := by
  rw [fiscalMonth, Value.requireDate_moment, ok_bind, liftM_eq_ok_iff,
    FiscalYear.monthOf_eq_ok_iff, Moment.dayNumber]

lemma exists_fiscalMonth_iff :
    (∃ month, fiscalMonth y (.moment v) = .ok month) ↔ y.HoldsDay v.dayNumber := by
  simp only [fiscalMonth_eq_ok_iff, exists_and_left, exists_eq', and_true]

/-- A week belongs to the month that has its number among the weeks counted up to its end. -/
lemma fiscalMonth_run {week month : Int} (h : fiscalWeek y (.moment v) = .ok week) :
    fiscalMonth y (.moment v) = .ok month ↔
      (1 ≤ month ∧ month ≤ 12) ∧ ∑ j ∈ Finset.Ico 1 month, y.monthWeeks j < week ∧
        week ≤ ∑ j ∈ Finset.Ico 1 (month + 1), y.monthWeeks j := by
  obtain ⟨hheld, rfl⟩ := fiscalWeek_eq_ok_iff.1 h
  obtain ⟨hlow, hhigh⟩ := FiscalYear.holdsDay_iff.1 hheld
  rw [fiscalMonth_eq_ok_iff, and_iff_right hheld, FiscalYear.monthOfWeek_eq_iff hlow hhigh]
  refine and_congr_right fun hm => ?_
  rw [y.sum_monthWeeks hm.1, y.sum_monthWeeks (by omega), Int.lt_add_one_iff, Int.add_one_le_iff]

lemma fiscalQuarter_eq : fiscalQuarter y (.moment v) = liftM (y.quarterOf v.date) := by
  rw [fiscalQuarter, Value.requireDate_moment, ok_bind]

lemma fiscalQuarterStart_eq :
    fiscalQuarterStart y (.moment v) = liftM (y.quarterStart v.date) := by
  rw [fiscalQuarterStart, Value.requireDate_moment, ok_bind]

lemma fiscalQuarterStop_eq : fiscalQuarterStop y (.moment v) = liftM (y.quarterStop v.date) := by
  rw [fiscalQuarterStop, Value.requireDate_moment, ok_bind]

lemma fiscalQuarter_eq_ok_iff {quarter : Int} :
    fiscalQuarter y (.moment v) = .ok quarter ↔
      (1 ≤ quarter ∧ quarter ≤ 4) ∧
        y.quarterFirst quarter ≤ v.dayNumber ∧ v.dayNumber ≤ y.quarterLast quarter := by
  rw [fiscalQuarter_eq, liftM_eq_ok_iff, FiscalYear.quarterOf_eq_ok_iff, Moment.dayNumber]

lemma exists_fiscalQuarter_iff :
    (∃ quarter, fiscalQuarter y (.moment v) = .ok quarter) ↔ y.HoldsDay v.dayNumber := by
  simp only [fiscalQuarter_eq, liftM_eq_ok_iff, FiscalYear.exists_quarterOf_iff, Moment.dayNumber]

lemma fiscalQuarter_of_fiscalMonth {month : Int} (h : fiscalMonth y (.moment v) = .ok month) :
    fiscalQuarter y (.moment v) = .ok ((month - 1) / 3 + 1) := by
  obtain ⟨hheld, rfl⟩ := fiscalMonth_eq_ok_iff.1 h
  rw [← FiscalYear.quarterOfWeek_eq, fiscalQuarter_eq, liftM_eq_ok_iff, FiscalYear.quarterOf,
    bind_eq_ok_iff, FiscalYear.exists_weekIndex_iff]
  exact ⟨hheld, rfl⟩

section OfQuarter

variable {quarter : Int} (h : fiscalQuarter y (.moment v) = .ok quarter)

include h

lemma fiscalQuarterStart_eq_ok_iff {s : Date} :
    fiscalQuarterStart y (.moment v) = .ok s ↔ s.dayNumber = y.quarterFirst quarter := by
  rw [fiscalQuarter_eq, liftM_eq_ok_iff] at h
  rw [fiscalQuarterStart_eq, liftM_eq_ok_iff, FiscalYear.quarterStart_eq_ok_iff h]

lemma fiscalQuarterStop_eq_ok_iff {e : Date} :
    fiscalQuarterStop y (.moment v) = .ok e ↔ e.dayNumber = y.quarterLast quarter := by
  rw [fiscalQuarter_eq, liftM_eq_ok_iff] at h
  rw [fiscalQuarterStop_eq, liftM_eq_ok_iff, FiscalYear.quarterStop_eq_ok_iff h]

/-- The ends of a quarter depend on the quarter alone. -/
lemma fiscalQuarter_ends_congr {u : Moment} (hu : fiscalQuarter y (.moment u) = .ok quarter) :
    fiscalQuarterStart y (.moment u) = fiscalQuarterStart y (.moment v) ∧
      fiscalQuarterStop y (.moment u) = fiscalQuarterStop y (.moment v) := by
  rw [fiscalQuarter_eq, liftM_eq_ok_iff] at h hu
  simp only [fiscalQuarterStart_eq, fiscalQuarterStop_eq, FiscalYear.quarterStart,
    FiscalYear.quarterStop, h, hu, and_self]

end OfQuarter

section Representable

variable (h : y.lastDay ≤ maxDay)

include h

lemma exists_fiscalQuarterStart_iff :
    (∃ s, fiscalQuarterStart y (.moment v) = .ok s) ↔ y.HoldsDay v.dayNumber := by
  simp only [fiscalQuarterStart_eq, liftM_eq_ok_iff, FiscalYear.exists_quarterStart_iff h,
    Moment.dayNumber]

lemma exists_fiscalQuarterStop_iff :
    (∃ e, fiscalQuarterStop y (.moment v) = .ok e) ↔ y.HoldsDay v.dayNumber := by
  simp only [fiscalQuarterStop_eq, liftM_eq_ok_iff, FiscalYear.exists_quarterStop_iff h,
    Moment.dayNumber]

lemma fiscalQuarter_holds {s e : Date} (hs : fiscalQuarterStart y (.moment v) = .ok s)
    (he : fiscalQuarterStop y (.moment v) = .ok e) :
    s.dayNumber ≤ v.dayNumber ∧ v.dayNumber ≤ e.dayNumber := by
  have hheld := (exists_fiscalQuarterStart_iff h).1 ⟨s, hs⟩
  obtain ⟨quarter, hquarter⟩ := exists_fiscalQuarter_iff.2 hheld
  rw [fiscalQuarterStart_eq_ok_iff hquarter] at hs
  rw [fiscalQuarterStop_eq_ok_iff hquarter] at he
  rw [hs, he]
  exact (fiscalQuarter_eq_ok_iff.1 hquarter).2

end Representable

lemma fiscalStartMonth_eq_ok_iff {q : Numeral} {month : Int} :
    fiscalStartMonth y (.number q) = .ok month ↔
      (1 ≤ q.value ∧ q.value ≤ 4) ∧
        ∃ s : Date, s.dayNumber = y.quarterFirst q.value ∧ s.month = month := by
  rw [fiscalStartMonth, Value.requireQuarter_number]
  simp only [bind_eq_ok_iff, liftM_eq_ok_iff, checkQuarter_eq_ok_iff, exists_checked_iff,
    FiscalYear.startMonth, FiscalYear.startOfQuarter_eq_ok_iff, pure_eq_ok, Except.ok.injEq]

lemma exists_fiscalStartMonth_iff (h : y.lastDay ≤ maxDay) {q : Numeral} :
    (∃ month, fiscalStartMonth y (.number q) = .ok month) ↔ 1 ≤ q.value ∧ q.value ≤ 4 := by
  simp only [fiscalStartMonth_eq_ok_iff, exists_and_left]
  refine and_iff_left_of_imp fun hq => ?_
  obtain ⟨s, hs⟩ := FiscalYear.exists_quarterFirst h hq
  exact ⟨s.month, s, hs, rfl⟩

lemma fiscalStartMonth_spec {q : Numeral} {month : Int}
    (h : fiscalStartMonth y (.number q) = .ok month) :
    ∃ d : Date, fiscalQuarter y (.date d) = .ok q.value ∧
      fiscalQuarterStart y (.date d) = .ok d ∧ d.month = month := by
  obtain ⟨hq, d, hd, hmonth⟩ := fiscalStartMonth_eq_ok_iff.1 h
  have hquarter : fiscalQuarter y (.date d) = .ok q.value := by
    rw [Value.date, fiscalQuarter_eq_ok_iff, Moment.dayNumber_ofDate, hd]
    exact ⟨hq, Int.le_refl _, (FiscalYear.quarter_bounds hq).2.1⟩
  exact ⟨d, hquarter, (fiscalQuarterStart_eq_ok_iff hquarter).2 hd, hmonth⟩

end Call

def Moment.Between (v : Moment) (first last : Date) : Prop :=
  first.dayNumber ≤ v.dayNumber ∧ v.dayNumber ≤ last.dayNumber

/-- The laws of the weeks, months and quarters of a fiscal year whose last day is `stop`. -/
structure FiscalYear.Division (y : FiscalYear) (stop : Date) : Prop where
  week_iff : ∀ v : Moment,
    (∃ n, Call.fiscalWeek y (.moment v) = .ok n) ↔ v.Between y.start stop
  month_iff : ∀ v : Moment,
    (∃ m, Call.fiscalMonth y (.moment v) = .ok m) ↔ v.Between y.start stop
  quarter_iff : ∀ v : Moment,
    (∃ q, Call.fiscalQuarter y (.moment v) = .ok q) ↔ v.Between y.start stop
  quarterStart_iff : ∀ v : Moment,
    (∃ s, Call.fiscalQuarterStart y (.moment v) = .ok s) ↔ v.Between y.start stop
  quarterStop_iff : ∀ v : Moment,
    (∃ e, Call.fiscalQuarterStop y (.moment v) = .ok e) ↔ v.Between y.start stop
  week_eq : ∀ (v : Moment) (n : Int), Call.fiscalWeek y (.moment v) = .ok n →
    n = (v.dayNumber - y.start.dayNumber) / 7 + 1
  /-- The months are runs of weeks, one after the other. -/
  month_run : ∀ (v : Moment) (n m : Int), Call.fiscalWeek y (.moment v) = .ok n →
    (Call.fiscalMonth y (.moment v) = .ok m ↔
      (1 ≤ m ∧ m ≤ 12) ∧ ∑ j ∈ Finset.Ico 1 m, y.monthWeeks j < n ∧
        n ≤ ∑ j ∈ Finset.Ico 1 (m + 1), y.monthWeeks j)
  quarter_eq : ∀ (v : Moment) (m : Int), Call.fiscalMonth y (.moment v) = .ok m →
    Call.fiscalQuarter y (.moment v) = .ok ((m - 1) / 3 + 1)
  quarter_holds : ∀ (v : Moment) (s e : Date), Call.fiscalQuarterStart y (.moment v) = .ok s →
    Call.fiscalQuarterStop y (.moment v) = .ok e → v.Between s e
  /-- Two dates of one quarter have the same ends. -/
  quarter_ends : ∀ (u v : Moment) (q : Int), Call.fiscalQuarter y (.moment u) = .ok q →
    Call.fiscalQuarter y (.moment v) = .ok q →
    Call.fiscalQuarterStart y (.moment u) = Call.fiscalQuarterStart y (.moment v) ∧
      Call.fiscalQuarterStop y (.moment u) = Call.fiscalQuarterStop y (.moment v)
  quarter_adjoins : ∀ (u v : Moment) (q : Int) (e s : Date),
    Call.fiscalQuarter y (.moment u) = .ok q → Call.fiscalQuarter y (.moment v) = .ok (q + 1) →
    Call.fiscalQuarterStop y (.moment u) = .ok e → Call.fiscalQuarterStart y (.moment v) = .ok s →
    e.dayNumber + 1 = s.dayNumber
  quarter_days : ∀ (v : Moment) (q : Int) (s e : Date), Call.fiscalQuarter y (.moment v) = .ok q →
    Call.fiscalQuarterStart y (.moment v) = .ok s → Call.fiscalQuarterStop y (.moment v) = .ok e →
    e.dayNumber - s.dayNumber + 1 = if q = 4 ∧ y.long then 98 else 91
  last_quarter : ∀ (v : Moment) (e : Date), Call.fiscalQuarter y (.moment v) = .ok 4 →
    Call.fiscalQuarterStop y (.moment v) = .ok e → e = stop
  startMonth_iff : ∀ q : Numeral,
    (∃ m, Call.fiscalStartMonth y (.number q) = .ok m) ↔ 1 ≤ q.value ∧ q.value ≤ 4
  /-- The first day of a quarter is a date of the quarter, and the start of it. -/
  startMonth_eq : ∀ (q : Numeral) (m : Int), Call.fiscalStartMonth y (.number q) = .ok m →
    ∃ d : Date, Call.fiscalQuarter y (.date d) = .ok q.value ∧
      Call.fiscalQuarterStart y (.date d) = .ok d ∧ d.month = m

/-- **A fiscal year is divided without gap or overlap**, whatever day it starts on and whether it
has 52 weeks or 53, as long as its last day is representable. -/
theorem fiscalYear_divides (y : FiscalYear) (h : y.lastDay ≤ maxDay) :
    ∃ stop, y.stop = .ok stop ∧ y.Division stop := by
  have hlast : y.quarterLast 4 = y.lastDay := if_pos rfl
  have hfour : 1 ≤ (4 : Int) ∧ (4 : Int) ≤ 4 := by decide
  obtain ⟨stop, hstop⟩ := FiscalYear.exists_quarterLast h hfour
  rw [hlast] at hstop
  have hbetween : ∀ v : Moment, v.Between y.start stop ↔ y.HoldsDay v.dayNumber := by
    intro v
    rw [Moment.Between, FiscalYear.HoldsDay, hstop]
  refine ⟨stop, FiscalYear.stop_eq_ok_iff.2 hstop, ?_⟩
  constructor
  case week_iff =>
    intro v
    rw [hbetween, Call.exists_fiscalWeek_iff]
  case month_iff =>
    intro v
    rw [hbetween, Call.exists_fiscalMonth_iff]
  case quarter_iff =>
    intro v
    rw [hbetween, Call.exists_fiscalQuarter_iff]
  case quarterStart_iff =>
    intro v
    rw [hbetween, Call.exists_fiscalQuarterStart_iff h]
  case quarterStop_iff =>
    intro v
    rw [hbetween, Call.exists_fiscalQuarterStop_iff h]
  case week_eq =>
    intro v n hn
    exact (Call.fiscalWeek_eq_ok_iff.1 hn).2.symm
  case month_run =>
    intro v n m hn
    exact Call.fiscalMonth_run hn
  case quarter_eq =>
    intro v m hm
    exact Call.fiscalQuarter_of_fiscalMonth hm
  case quarter_holds =>
    intro v s e hs he
    exact Call.fiscalQuarter_holds h hs he
  case quarter_ends =>
    intro u v q hu hv
    exact Call.fiscalQuarter_ends_congr hv hu
  case quarter_adjoins =>
    intro u v q e s hu hv he hs
    rw [Call.fiscalQuarterStop_eq_ok_iff hu] at he
    rw [Call.fiscalQuarterStart_eq_ok_iff hv] at hs
    have hnext := (Call.fiscalQuarter_eq_ok_iff.1 hv).1
    rw [he, hs, FiscalYear.quarterFirst_succ (by omega)]
  case quarter_days =>
    intro v q s e hv hs he
    rw [Call.fiscalQuarterStart_eq_ok_iff hv] at hs
    rw [Call.fiscalQuarterStop_eq_ok_iff hv] at he
    rw [hs, he, FiscalYear.quarter_days]
  case last_quarter =>
    intro v e hv he
    rw [Call.fiscalQuarterStop_eq_ok_iff hv, hlast, ← hstop] at he
    exact Date.dayNumber_inj he
  case startMonth_iff =>
    intro q
    exact Call.exists_fiscalStartMonth_iff h
  case startMonth_eq =>
    intro q m hm
    exact Call.fiscalStartMonth_spec hm

/-- The 53 weeks from Sunday, 29 January 2017, on. -/
def FiscalYear.longYear : FiscalYear where
  start := { year := 2017, month := 1, day := 29, valid := by decide }
  firstWeekday := .sunday
  long := true
  nominalStart := { year := 2017, month := 2, day := 1, valid := by decide }
  start_weekday := by decide

/-- The last day of a long year lies in week 53, which belongs to month 12 and to a quarter of 98
days. -/
theorem fiscalYear_divides_longYear :
    FiscalYear.longYear.lastDay ≤ maxDay ∧
      ∃ stop s, FiscalYear.longYear.stop = .ok stop ∧
        Call.fiscalWeek .longYear (.date stop) = .ok 53 ∧
        Call.fiscalMonth .longYear (.date stop) = .ok 12 ∧
        Call.fiscalQuarterStart .longYear (.date stop) = .ok s ∧
        stop.dayNumber - s.dayNumber + 1 = 98 := by
  obtain ⟨stop, hstop, laws⟩ := fiscalYear_divides .longYear (by decide)
  have hlast : stop.dayNumber = FiscalYear.longYear.lastDay := FiscalYear.stop_eq_ok_iff.1 hstop
  have hheld : (Moment.ofDate stop).Between FiscalYear.longYear.start stop := by
    rw [Moment.Between, Moment.dayNumber_ofDate, hlast]
    decide
  obtain ⟨n, hn⟩ := (laws.week_iff _).2 hheld
  obtain rfl : n = 53 := by
    rw [laws.week_eq _ n hn, Moment.dayNumber_ofDate, hlast]
    decide
  have hmonth := (laws.month_run _ 53 12 hn).2 (by decide)
  have hquarter := laws.quarter_eq _ 12 hmonth
  obtain ⟨s, hs⟩ := (laws.quarterStart_iff _).2 hheld
  obtain ⟨e, he⟩ := (laws.quarterStop_iff _).2 hheld
  obtain rfl := laws.last_quarter _ e hquarter he
  exact ⟨by decide, e, s, hstop, hn, hmonth, hs, laws.quarter_days _ _ s e hquarter hs he⟩

end BusinessCalendar
