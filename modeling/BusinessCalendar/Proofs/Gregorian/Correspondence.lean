import BusinessCalendar.Call.Gregorian
import BusinessCalendar.Proofs.Outcome

/-!
# Dates and day numbers correspond

Counting the days of a date and finding the date of a day are two unrelated computations.  On the
calls that make them the two are inverse to each other: **the valid dates and the day numbers 0 to
3652058 correspond one to one, in order** (`dates_correspond_to_dayNumbers`).

* `toDayNumber_eq_ok_iff`, `fromDayNumber_eq_ok_iff` — when each call succeeds, and with what;
  `toDayNumber_int`, `fromDayNumber_int` — the two calls on a valid date and on a representable day.
* `YearMonthDay.calendarOrder` — year before month before day.
-/

namespace BusinessCalendar

/-! ## When the calls succeed -/

namespace Call

lemma daysInYear_eq_ok_iff {y : Numeral} {length : Int} :
    daysInYear (.number y) = .ok length ↔
      (minYear ≤ y.value ∧ y.value ≤ maxYear) ∧ BusinessCalendar.daysInYear y.value = length := by
  simp only [daysInYear, Value.requireYear_number, bind_eq_ok_iff, liftM_eq_ok_iff,
    checkYear_eq_ok_iff, exists_checked_iff, pure_eq_ok, Except.ok.injEq]

lemma daysInMonth_eq_ok_iff {y m : Numeral} {length : Int} :
    daysInMonth (.number y) (.number m) = .ok length ↔
      (minYear ≤ y.value ∧ y.value ≤ maxYear) ∧ (1 ≤ m.value ∧ m.value ≤ 12) ∧
        BusinessCalendar.daysInMonth y.value m.value = length := by
  simp only [daysInMonth, Value.requireYear_number, Value.requireMonth_number, bind_eq_ok_iff,
    liftM_eq_ok_iff, checkYear_eq_ok_iff, checkMonth_eq_ok_iff, exists_checked_iff, pure_eq_ok,
    Except.ok.injEq]

/-- A day number is counted for the valid dates and for nothing else. -/
lemma toDayNumber_eq_ok_iff {y m d : Numeral} {n : Int} :
    toDayNumber (.number y) (.number m) (.number d) = .ok n ↔
      (YearMonthDay.mk y.value m.value d.value).Valid ∧
        (YearMonthDay.mk y.value m.value d.value).dayNumber = n := by
  simp only [toDayNumber, Value.requireYear_number, Value.requireMonth_number,
    Value.requireInt_number, bind_eq_ok_iff, liftM_eq_ok_iff, checkYear_eq_ok_iff,
    checkMonth_eq_ok_iff, checkDayOfMonth_eq_ok_iff, exists_checked_iff, pure_eq_ok,
    Except.ok.injEq, exists_eq_left']
  constructor
  · rintro ⟨hy, hm, hd, h⟩
    exact ⟨YearMonthDay.valid_mk hy hm hd, h⟩
  · rintro ⟨⟨hy, hm, hd⟩, h⟩
    exact ⟨hy, hm, hd, h⟩

/-- A representable day has a date, and no other has. -/
lemma fromDayNumber_eq_ok_iff {n : Numeral} {d : YearMonthDay} :
    fromDayNumber (.number n) = .ok d ↔
      Representable n.value ∧ YearMonthDay.ofDay n.value = d := by
  simp only [fromDayNumber, Value.requireDayNumber_number, bind_eq_ok_iff, liftM_eq_ok_iff,
    checkDayNumber_eq_ok_iff, exists_checked_iff, pure_eq_ok, Except.ok.injEq]

/-- A representable day has the date that the line of days gives it. -/
lemma fromDayNumber_int {n : Int} (h : Representable n) :
    fromDayNumber (.int n) = .ok (.ofDay n) :=
  (fromDayNumber_eq_ok_iff (n := .plain n)).2 ⟨h, rfl⟩

/-- A valid date has the day that its place in the calendar gives it. -/
lemma toDayNumber_int {d : YearMonthDay} (h : d.Valid) :
    toDayNumber (.int d.year) (.int d.month) (.int d.day) = .ok d.dayNumber :=
  (@toDayNumber_eq_ok_iff (.plain d.year) (.plain d.month) (.plain d.day) _).2 ⟨h, rfl⟩

end Call

/-! ## The order of the calendar -/

namespace YearMonthDay

/-- The place of a date in the order of the calendar: the year decides before the month, the month
before the day. -/
def calendarOrder (d : YearMonthDay) : Lex (Int × Lex (Int × Int)) :=
  toLex (d.year, toLex (d.month, d.day))

/-- The day line and the order of the calendar agree. -/
lemma dayNumber_lt_iff_calendarOrder_lt {d e : YearMonthDay} (hd : d.Proper) (he : e.Proper) :
    d.dayNumber < e.dayNumber ↔ d.calendarOrder < e.calendarOrder := by
  simp only [calendarOrder, Prod.Lex.toLex_lt_toLex]
  exact dayNumber_lt_iff hd he

end YearMonthDay

/-! ## The correspondence -/

/-- **Valid dates and day numbers correspond one to one, in order.**  Days are counted exactly for
the dates that exist; the way back finds the date again; every day number from 0 to 3652058 is the
number of the date found for it; and an earlier date has a smaller number. -/
theorem dates_correspond_to_dayNumbers :
    (∀ y m d : Numeral,
      (∃ n, Call.toDayNumber (.number y) (.number m) (.number d) = .ok n) ↔
        (1 ≤ y.value ∧ y.value ≤ 9999) ∧ (1 ≤ m.value ∧ m.value ≤ 12) ∧
          ∃ length, Call.daysInMonth (.number y) (.number m) = .ok length ∧
            1 ≤ d.value ∧ d.value ≤ length) ∧
    (∀ (y m d : Numeral) (n : Int),
      Call.toDayNumber (.number y) (.number m) (.number d) = .ok n →
        (0 ≤ n ∧ n ≤ 3652058) ∧
          Call.fromDayNumber (.int n) =
            .ok { year := y.value, month := m.value, day := d.value }) ∧
    (∀ n : Numeral, 0 ≤ n.value → n.value ≤ 3652058 →
      ∃ d : YearMonthDay, Call.fromDayNumber (.number n) = .ok d ∧ d.Valid ∧
        Call.toDayNumber (.int d.year) (.int d.month) (.int d.day) = .ok n.value) ∧
    (∀ (y₁ m₁ d₁ y₂ m₂ d₂ : Numeral) (n₁ n₂ : Int),
      Call.toDayNumber (.number y₁) (.number m₁) (.number d₁) = .ok n₁ →
      Call.toDayNumber (.number y₂) (.number m₂) (.number d₂) = .ok n₂ →
        ((YearMonthDay.mk y₁.value m₁.value d₁.value).calendarOrder <
            (YearMonthDay.mk y₂.value m₂.value d₂.value).calendarOrder ↔ n₁ < n₂)) := by
  refine ⟨fun y m d => ?_, fun y m d n h => ?_, fun n hlow hhigh => ?_, ?_⟩
  · constructor
    · rintro ⟨n, h⟩
      obtain ⟨⟨hy, hm, hd⟩, -⟩ := Call.toDayNumber_eq_ok_iff.1 h
      exact ⟨hy, hm, _, Call.daysInMonth_eq_ok_iff.2 ⟨hy, hm, rfl⟩, hd⟩
    · rintro ⟨hy, hm, length, hlength, hd⟩
      obtain ⟨-, -, rfl⟩ := Call.daysInMonth_eq_ok_iff.1 hlength
      exact ⟨_, Call.toDayNumber_eq_ok_iff.2 ⟨YearMonthDay.valid_mk hy hm hd, rfl⟩⟩
  · obtain ⟨hvalid, rfl⟩ := Call.toDayNumber_eq_ok_iff.1 h
    have hn := YearMonthDay.representable_dayNumber hvalid
    exact ⟨hn, Call.fromDayNumber_eq_ok_iff.2 ⟨hn, YearMonthDay.ofDay_dayNumber hvalid.2⟩⟩
  · have hvalid := YearMonthDay.ofDay_valid (n := n.value) ⟨hlow, hhigh⟩
    refine ⟨_, Call.fromDayNumber_eq_ok_iff.2 ⟨⟨hlow, hhigh⟩, rfl⟩, hvalid, ?_⟩
    exact Call.toDayNumber_eq_ok_iff.2 ⟨hvalid, YearMonthDay.dayNumber_ofDay n.value⟩
  · intro y₁ m₁ d₁ y₂ m₂ d₂ n₁ n₂ h₁ h₂
    obtain ⟨hvalid₁, rfl⟩ := Call.toDayNumber_eq_ok_iff.1 h₁
    obtain ⟨hvalid₂, rfl⟩ := Call.toDayNumber_eq_ok_iff.1 h₂
    exact (YearMonthDay.dayNumber_lt_iff_calendarOrder_lt hvalid₁.2 hvalid₂.2).symm

/-- The last day of a leap year that ends a cycle of 400 years, there and back. -/
theorem dates_correspond_to_dayNumbers_yearEnd :
    Call.toDayNumber (.int 2000) (.int 12) (.int 31) = .ok 730484 ∧
      (0 ≤ (730484 : Int) ∧ (730484 : Int) ≤ 3652058) ∧
        Call.fromDayNumber (.int 730484) = .ok { year := 2000, month := 12, day := 31 } := by
  have h : Call.toDayNumber (.int 2000) (.int 12) (.int 31) = .ok 730484 := by rfl
  exact ⟨h, dates_correspond_to_dayNumbers.2.1 (.plain 2000) (.plain 12) (.plain 31) 730484 h⟩

end BusinessCalendar
