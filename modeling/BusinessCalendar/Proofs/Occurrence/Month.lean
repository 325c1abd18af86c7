import BusinessCalendar.Proofs.Gregorian.Correspondence
import BusinessCalendar.Proofs.Gregorian.YearLine
import BusinessCalendar.Proofs.Occurrence.Window

/-!
# Weekdays in a month

A month is a window of 28 to 31 days, so every weekday falls on four or five of them, and **the
seven weekdays share the days of the month among them** (`sum_length_daysIn`).

Of the numbers that occurrences of a window have, a month keeps only those that are positions in a
month: it has a fifth weekday only where there are five, and from the end it counts the last one
alone.  `IsMonthPosition` says which numbers are left.

* `Weekday.daysOfMonth`, `mem_daysOfMonth` — the days of a month on a weekday.
* `Date.nthInMonth_eq_ok`, `Date.nthInMonth_eq_error` — the two ways of refusing a number, by the
  position and by the window, come to the same refusal.
* `nthInMonth_indexes_daysOfMonth` — the calls.
-/

namespace BusinessCalendar

/-! ## Every day falls on one weekday -/

lemma sum_length_filter_onDay (days : List Int) :
    (Weekday.all.map fun w => (days.filter fun n => Weekday.onDay n = w).length).sum =
      days.length := by
  induction days with
  | nil => rfl
  | cons n days ih =>
    simp only [Weekday.all, List.map_cons, List.map_nil, List.sum_cons, List.sum_nil,
      ← List.countP_eq_length_filter, List.countP_cons, List.length_cons] at ih ⊢
    -- one more day counts for its own weekday and for none of the other six
    cases Weekday.onDay n <;> simp <;> omega

/-- **The weekdays share the days of a window among them.** -/
theorem sum_length_daysIn (first last : Int) :
    (Weekday.all.map fun w => (w.daysIn first last).length).sum = (last + 1 - first).toNat := by
  simp only [Weekday.daysIn]
  rw [sum_length_filter_onDay, Int.range, List.length_map, List.length_range]

/-! ## The days of a month -/

/-- The days of a month that fall on a weekday, in ascending order. -/
def Weekday.daysOfMonth (w : Weekday) (year month : Int) : List Int :=
  w.daysIn (Date.monthStart year month) (Date.monthEnd year month)

section Month

variable {w : Weekday} {year month : Int}

/-- A day lies between the ends of a month exactly when it is in that month. -/
lemma Date.mem_month_iff (hmonth : 1 ≤ month ∧ month ≤ 12) {d : Date} :
    (Date.monthStart year month ≤ d.dayNumber ∧ d.dayNumber ≤ Date.monthEnd year month) ↔
      d.year = year ∧ d.month = month := by
  simp only [Date.monthEnd, Date.monthStart]
  constructor
  · rintro ⟨hlow, hhigh⟩
    -- counting on from the first of the month stays in the month, and days have one date
    have hday := YearMonthDay.eq_of_dayNumber_eq d.valid.2
      (e := ⟨year, month, d.dayNumber - (YearMonthDay.mk year month 1).dayNumber + 1⟩)
      (YearMonthDay.proper_mk hmonth (by omega))
      (by simp only [Date.dayNumber, YearMonthDay.dayNumber]; omega)
    exact ⟨congrArg YearMonthDay.year hday, congrArg YearMonthDay.month hday⟩
  · rintro ⟨rfl, rfl⟩
    have hday := d.valid.2.2
    simp only [Date.dayNumber, YearMonthDay.dayNumber]
    omega

lemma mem_daysOfMonth (hmonth : 1 ≤ month ∧ month ≤ 12) {d : Date} :
    d.dayNumber ∈ w.daysOfMonth year month ↔
      (d.year = year ∧ d.month = month) ∧ d.weekday = w := by
  rw [Weekday.daysOfMonth, Weekday.mem_daysIn, Date.mem_month_iff hmonth, Date.weekday]

lemma length_daysOfMonth (w : Weekday) (year month : Int) :
    ((w.daysOfMonth year month).length : Int) = Date.countInMonth year month w :=
  length_daysIn w _ _

/-- The first four weeks of a month have each weekday once, and what is left is less than a week. -/
lemma countInMonth_bounds (w : Weekday) (year : Int) (hmonth : 1 ≤ month ∧ month ≤ 12) :
    4 ≤ Date.countInMonth year month w ∧ Date.countInMonth year month w ≤ 5 := by
  have hlength := daysInMonth_bounds year hmonth.1 hmonth.2
  have hbounds := countBetween_bounds w (Date.monthStart year month) (Date.monthEnd year month)
    (by simp only [Date.monthEnd]; omega)
  simp only [Date.countInMonth]
  simp only [Date.monthEnd] at hbounds ⊢
  omega

lemma natAbs_countInMonth_lt (w : Weekday) (year : Int) (hmonth : 1 ≤ month ∧ month ≤ 12) :
    (Date.countInMonth year month w).natAbs < 10 ^ 8 := by
  have hcount := countInMonth_bounds w year hmonth
  omega

lemma sum_length_daysOfMonth (hmonth : 1 ≤ month ∧ month ≤ 12) :
    (((Weekday.all.map fun w => (w.daysOfMonth year month).length).sum : Nat) : Int) =
      daysInMonth year month := by
  have hlength := daysInMonth_bounds year hmonth.1 hmonth.2
  simp only [Weekday.daysOfMonth, sum_length_daysIn, Date.monthEnd]
  omega

/-- The days of a representable month have dates. -/
lemma representable_month (hyear : minYear ≤ year ∧ year ≤ maxYear)
    (hmonth : 1 ≤ month ∧ month ≤ 12) :
    minDay ≤ Date.monthStart year month ∧ Date.monthEnd year month ≤ maxDay := by
  have hlength := daysInMonth_bounds year hmonth.1 hmonth.2
  have hfirst := YearMonthDay.representable_dayNumber
    (YearMonthDay.valid_mk hyear hmonth (d := 1) (by omega))
  have hlast := YearMonthDay.representable_dayNumber
    (YearMonthDay.valid_mk hyear hmonth (d := daysInMonth year month) (by omega))
  refine ⟨hfirst.1, Int.le_trans (Int.le_of_eq ?_) hlast.2⟩
  simp only [Date.monthEnd, Date.monthStart, YearMonthDay.dayNumber]
  omega

end Month

/-! ## Positions in a month -/

lemma MonthOrdinal.ofNumber?_isNone_iff {n : Int} :
    (MonthOrdinal.ofNumber? n).isNone ↔ ¬((1 ≤ n ∧ n ≤ 5) ∨ n = -1) := by
  simp only [MonthOrdinal.ofNumber?, MonthOrdinal.all, Option.isNone_iff_eq_none,
    List.find?_eq_none, List.forall_mem_cons, MonthOrdinal.number, beq_iff_eq, List.not_mem_nil,
    IsEmpty.forall_iff, implies_true, and_true]
  omega

/-- The numbers of the positions that a month has, of so many matches: 1, 2, … and -1. -/
def IsMonthPosition (available k : Int) : Prop := (1 ≤ k ∧ k ≤ available) ∨ k = -1

section Position

variable {w : Weekday} {year month : Int}

/-- With four or five matches, the positions are the month ordinals among the occurrences. -/
lemma isMonthPosition_iff (hmonth : 1 ≤ month ∧ month ≤ 12) {k : Int} :
    IsMonthPosition (Date.countInMonth year month w) k ↔
      ¬(MonthOrdinal.ofNumber? k).isNone ∧ HasOccurrence (Date.countInMonth year month w) k := by
  have hcount := countInMonth_bounds w year hmonth
  rw [MonthOrdinal.ofNumber?_isNone_iff, IsMonthPosition, HasOccurrence]
  omega

namespace Date

variable {k : Numeral}

lemma nthInMonth_eq_ok (hmonth : 1 ≤ month ∧ month ≤ 12)
    (hk : IsMonthPosition (countInMonth year month w) k.value) {d : Date}
    (hd : d.dayNumber = occurrence (monthStart year month) (monthEnd year month) w k.value) :
    nthInMonth year month w k = .ok d := by
  obtain ⟨hordinal, hoccurs⟩ := (isMonthPosition_iff hmonth).1 hk
  simp only [nthInMonth]
  rw [if_neg hordinal, occurrenceBetween_eq_ok hoccurs]
  exact atDay_eq_ok_iff.2 hd

lemma nthInMonth_eq_error (hmonth : 1 ≤ month ∧ month ≤ 12)
    (hk : ¬IsMonthPosition (countInMonth year month w) k.value) :
    nthInMonth year month w k =
      .error (.ordinalNotInPeriod k w.name (monthText (year : Numeral) month)
        (countInMonth year month w)) := by
  simp only [nthInMonth]
  by_cases hordinal : (MonthOrdinal.ofNumber? k.value).isNone
  · rw [if_pos hordinal]
    rfl
  · have hoccurs : ¬HasOccurrence (countInMonth year month w) k.value :=
      fun h => hk ((isMonthPosition_iff hmonth).2 ⟨hordinal, h⟩)
    rw [if_neg hordinal, occurrenceBetween_eq_error hoccurs]
    rfl

end Date

end Position

/-! ## The calls -/

namespace Call

variable {year month weekday k : Numeral} {w : Weekday}

lemma countInMonth_eq (hyear : minYear ≤ year.value ∧ year.value ≤ maxYear)
    (hmonth : 1 ≤ month.value ∧ month.value ≤ 12) (h : weekday.value = w.index) :
    countInMonth (.number year) (.number month) (.number weekday) =
      .ok (Date.countInMonth year.value month.value w) := by
  rw [countInMonth, Value.requireYear_eq_ok _ hyear, ok_bind, Value.requireMonth_eq_ok _ hmonth,
    ok_bind, Value.requireWeekday_eq_ok _ h, ok_bind, pure_eq_ok]

lemma nthInMonth_eq (hyear : minYear ≤ year.value ∧ year.value ≤ maxYear)
    (hmonth : 1 ≤ month.value ∧ month.value ≤ 12) (h : weekday.value = w.index) :
    nthInMonth (.number year) (.number month) (.number weekday) (.number k) =
      liftM (Date.nthInMonth year.value month.value w k) := by
  rw [nthInMonth, Value.requireYear_eq_ok _ hyear, ok_bind, Value.requireMonth_eq_ok _ hmonth,
    ok_bind, Value.requireWeekday_eq_ok _ h, ok_bind, Value.requireInt_number, ok_bind]

/-- A position that a month has leads to a date: the day that the number stands for. -/
lemma exists_nthInMonth (hyear : minYear ≤ year.value ∧ year.value ≤ maxYear)
    (hmonth : 1 ≤ month.value ∧ month.value ≤ 12) (h : weekday.value = w.index)
    (hk : IsMonthPosition (Date.countInMonth year.value month.value w) k.value) :
    ∃ d : Date,
      nthInMonth (.number year) (.number month) (.number weekday) (.number k) = .ok d ∧
      d.dayNumber = occurrence (Date.monthStart year.value month.value)
        (Date.monthEnd year.value month.value) w k.value := by
  obtain ⟨hfirst, hlast⟩ := representable_month hyear hmonth
  obtain ⟨d, hd⟩ := exists_date_of_occurrence hfirst hlast ((isMonthPosition_iff hmonth).1 hk).2
  refine ⟨d, ?_, hd⟩
  rw [nthInMonth_eq hyear hmonth h, liftM_eq_ok_iff, Date.nthInMonth_eq_ok hmonth hk hd]

/-- A number that can be written out is reported, with the number of matches there are. -/
lemma nthInMonth_eq_cause (hyear : minYear ≤ year.value ∧ year.value ≤ maxYear)
    (hmonth : 1 ≤ month.value ∧ month.value ≤ 12) (h : weekday.value = w.index)
    (hk : ¬IsMonthPosition (Date.countInMonth year.value month.value w) k.value)
    (hwritable : k.Writable) :
    nthInMonth (.number year) (.number month) (.number weekday) (.number k) =
      .error (.cause (.ordinalNotInPeriod k w.name (monthText (year.value : Numeral) month.value)
        (Date.countInMonth year.value month.value w))) := by
  have hcount := natAbs_countInMonth_lt w year.value hmonth
  rw [nthInMonth_eq hyear hmonth h, Date.nthInMonth_eq_error hmonth hk, liftM_error,
    Cause.fault_eq ((Cause.writable_ordinalNotInPeriod_iff hcount).2 hwritable)]

/-- A longer number is no position either, and there are no words to say so. -/
lemma nthInMonth_eq_wording (hyear : minYear ≤ year.value ∧ year.value ≤ maxYear)
    (hmonth : 1 ≤ month.value ∧ month.value ≤ 12) (h : weekday.value = w.index)
    (hlong : ¬k.Writable) :
    nthInMonth (.number year) (.number month) (.number weekday) (.number k) =
      .error (.wording .tooManyDigits) := by
  have hcount := natAbs_countInMonth_lt w year.value hmonth
  have hk : ¬IsMonthPosition (Date.countInMonth year.value month.value w) k.value := fun hposition =>
    hlong (((isMonthPosition_iff hmonth).1 hposition).2.writable hcount)
  rw [nthInMonth_eq hyear hmonth h, Date.nthInMonth_eq_error hmonth hk, liftM_error,
    Cause.fault_eq_wording (mt (Cause.writable_ordinalNotInPeriod_iff hcount).1 hlong)]

end Call

/-- **A month has four or five days on each weekday, and its positions index them.**  A weekday's
number of occurrences is the number of its days, and the numbers of the seven weekdays add up to the
length of the month.  A position from 1 up to the number of occurrences is the day in that place,
and -1 the last day; any other number is refused, with the number of occurrences there are, and
without a code if it has more than 4300 digits. -/
theorem nthInMonth_indexes_daysOfMonth (year month : Numeral)
    (hyear : minYear ≤ year.value ∧ year.value ≤ maxYear)
    (hmonth : 1 ≤ month.value ∧ month.value ≤ 12) :
    (∃ length : Int,
      Call.daysInMonth (.number year) (.number month) = .ok length ∧
      (((Weekday.all.map fun w =>
        (w.daysOfMonth year.value month.value).length).sum : Nat) : Int) = length) ∧
    ∀ (weekday : Numeral) (w : Weekday), weekday.value = w.index →
    ∀ days : List Int, days = w.daysOfMonth year.value month.value →
      days.Pairwise (· < ·) ∧
      (∀ d : Date, d.dayNumber ∈ days ↔
        (d.year = year.value ∧ d.month = month.value) ∧ d.weekday = w) ∧
      Call.countInMonth (.number year) (.number month) (.number weekday) =
        .ok (days.length : Int) ∧
      (days.length = 4 ∨ days.length = 5) ∧
      (∀ k : Numeral, 1 ≤ k.value → k.value ≤ days.length →
        ∃ d : Date,
          Call.nthInMonth (.number year) (.number month) (.number weekday) (.number k) = .ok d ∧
          days[(k.value - 1).toNat]? = some d.dayNumber) ∧
      (∀ k : Numeral, k.value = -1 →
        ∃ d : Date,
          Call.nthInMonth (.number year) (.number month) (.number weekday) (.number k) = .ok d ∧
          days.getLast? = some d.dayNumber) ∧
      (∀ k : Numeral, ¬(1 ≤ k.value ∧ k.value ≤ days.length) → k.value ≠ -1 →
        (k.Writable → ∃ f : Fault,
          Call.nthInMonth (.number year) (.number month) (.number weekday) (.number k) =
            .error f ∧
          f.kind = .range ∧ f.code? = some .ordinalNotInPeriod ∧
          f = .cause (.ordinalNotInPeriod k w.name (monthText (year.value : Numeral) month.value)
            (days.length : Int))) ∧
        (¬k.Writable →
          Call.nthInMonth (.number year) (.number month) (.number weekday) (.number k) =
            .error (.wording .tooManyDigits))) := by
  refine ⟨⟨_, Call.daysInMonth_eq_ok_iff.2 ⟨hyear, hmonth, rfl⟩, sum_length_daysOfMonth hmonth⟩, ?_⟩
  rintro weekday w h days rfl
  have hlength := length_daysOfMonth w year.value month.value
  have hbounds := countInMonth_bounds w year.value hmonth
  refine ⟨Weekday.pairwise_daysIn, fun d => mem_daysOfMonth hmonth, ?_, by omega,
    fun k hlow hhigh => ?_, fun k hk => ?_, fun k hpos hneg => ?_⟩
  · rw [hlength, Call.countInMonth_eq hyear hmonth h]
  · rw [hlength] at hhigh
    obtain ⟨d, hcall, hd⟩ := Call.exists_nthInMonth hyear hmonth h (.inl ⟨hlow, hhigh⟩)
    refine ⟨d, hcall, ?_⟩
    rw [hd, Weekday.daysOfMonth, getElem?_daysIn hlow hhigh]
  · obtain ⟨d, hcall, hd⟩ := Call.exists_nthInMonth hyear hmonth h (k := k) (.inr hk)
    refine ⟨d, hcall, ?_⟩
    have hsome : 0 < Date.countInMonth year.value month.value w := by omega
    rw [hd, hk]
    exact getLast?_daysIn hsome
  · have hk : ¬IsMonthPosition (Date.countInMonth year.value month.value w) k.value := by
      rw [← hlength]
      exact fun hk => hk.elim hpos hneg
    rw [hlength]
    refine ⟨fun hwritable => ⟨_, ?_, rfl, rfl, rfl⟩, fun hlong => ?_⟩
    · exact Call.nthInMonth_eq_cause hyear hmonth h hk hwritable
    · exact Call.nthInMonth_eq_wording hyear hmonth h hlong

def Date.february22 : Date := { year := 2023, month := 2, day := 22, valid := by decide }

/-- The fourth Wednesday of February 2023 is its last, and there is no fifth. -/
theorem nthInMonth_indexes_daysOfMonth_february :
    Call.countInMonth (.int 2023) (.int 2) (.weekday .wednesday) = .ok 4 ∧
      Call.nthInMonth (.int 2023) (.int 2) (.weekday .wednesday) (.int 4) = .ok .february22 ∧
      Call.nthInMonth (.int 2023) (.int 2) (.weekday .wednesday) (.int (-1)) = .ok .february22 ∧
      ∃ f, Call.nthInMonth (.int 2023) (.int 2) (.weekday .wednesday) (.int 5) = .error f ∧
        f.code? = some .ordinalNotInPeriod := by
  have hdays : Weekday.wednesday.daysOfMonth 2023 2 = [738551, 738558, 738565, 738572] := by
    decide
  obtain ⟨-, -, hcount, -, hplaces, hlast, hrefused⟩ :=
    (nthInMonth_indexes_daysOfMonth (.plain 2023) (.plain 2) (by decide) (by decide)).2
      (.weekday .wednesday) .wednesday rfl _ hdays.symm
  obtain ⟨d, hfourth, hday⟩ := hplaces (.plain 4) (by decide) (by decide)
  obtain ⟨e, hcall, hend⟩ := hlast (.plain (-1)) rfl
  obtain ⟨f, herror, -, hcode, -⟩ := (hrefused (.plain 5) (by decide) (by decide)).1 (by decide)
  obtain rfl : d = .february22 := Date.dayNumber_inj (Option.some.inj hday).symm
  obtain rfl : e = .february22 := Date.dayNumber_inj (Option.some.inj hend).symm
  exact ⟨hcount, hfourth, hcall, f, herror, hcode⟩

/-- February 2024 has no Monday with a number of 4301 digits, but that is not what is reported: the
failure is a plain error of a value. -/
theorem nthInMonth_overlong :
    ¬IsMonthPosition (Date.countInMonth 2024 2 .monday) (10 ^ 4300) ∧
      ∃ f, Call.nthInMonth (.int 2024) (.int 2) (.weekday .monday) (.int (10 ^ 4300)) = .error f ∧
        f.kind = .value ∧ f.code? = none := by
  have hlong : ¬(Numeral.plain (10 ^ 4300)).Writable := Numeral.not_writable_pow
  have hmonth : (1 : Int) ≤ 2 ∧ (2 : Int) ≤ 12 := by decide
  have hcount := natAbs_countInMonth_lt .monday 2024 hmonth
  refine ⟨fun h => ?_, .wording .tooManyDigits, ?_, rfl, rfl⟩
  · exact hlong (HasOccurrence.writable ((isMonthPosition_iff hmonth).1 h).2 hcount)
  · exact Call.nthInMonth_eq_wording (w := .monday) (by decide) (by decide) rfl hlong

end BusinessCalendar
