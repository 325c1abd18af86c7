import BusinessCalendar.Proofs.Gregorian.Correspondence

/-!
# Day numbers count days

The closed form of a day number never adds up years or months.  This file shows that it might as
well: **a day number is the number of days in the years, the months and the days before the date**
(`dayNumber_eq_sum`), and **the date of the next day is the next date of the calendar**
(`ofDay_add_one`), from which any number of days can be walked (`ofDay_add`).

* `sum_Ico_differences` — the differences of a sequence add up to the difference of its ends.
* `daysBeforeYear_eq_sum`, `daysThrough_eq_sum` — the leap day correction and the month table as
  sums of year and month lengths.
* `YearMonthDay.successor` — the next date, by the lengths of months alone.
-/

namespace BusinessCalendar

/-! ## Closed forms as sums -/

/-- The differences of a sequence add up to the difference of its ends. -/
lemma sum_Ico_differences (f : Int → Int) {a b : Int} (h : a ≤ b) :
    ∑ i ∈ Finset.Ico a b, (f (i + 1) - f i) = f b - f a := by
  induction b, h using Int.leInduction with
  | base => simp
  | succ b h ih =>
    rw [← Finset.insert_Ico_right_eq_Ico_add_one h, Finset.sum_insert Finset.right_notMem_Ico, ih]
    omega

/-- The days before a year are the days of the years before it. -/
lemma daysBeforeYear_eq_sum {y : Int} (h : 1 ≤ y) :
    daysBeforeYear y = ∑ i ∈ Finset.Ico 1 y, daysInYear i := by
  have hstep : ∀ i, daysInYear i = daysBeforeYear (i + 1) - daysBeforeYear i := by
    intro i
    rw [YearMonthDay.daysBeforeYear_succ]
    omega
  simp only [hstep]
  rw [sum_Ico_differences daysBeforeYear h]
  simp [daysBeforeYear]

/-- The days before a month are the days of the months before it. -/
lemma daysThrough_eq_sum (y : Int) {m : Int} (h : 1 ≤ m) :
    daysThrough (isLeap y) (m - 1) = ∑ j ∈ Finset.Ico 1 m, daysInMonth y j := by
  have hstep : ∀ j, daysInMonth y j =
      daysThrough (isLeap y) (j + 1 - 1) - daysThrough (isLeap y) (j - 1) := by
    intro j
    rw [Int.add_sub_cancel, daysInMonth]
  simp only [hstep]
  rw [sum_Ico_differences (fun j => daysThrough (isLeap y) (j - 1)) h]
  simp

namespace YearMonthDay

/-- **A day number counts the days before a date**: those of the years before, those of the months
before in its year, and those before in its month. -/
theorem dayNumber_eq_sum {d : YearMonthDay} (hy : 1 ≤ d.year) (hm : 1 ≤ d.month) :
    d.dayNumber = ∑ i ∈ Finset.Ico 1 d.year, daysInYear i +
      ∑ j ∈ Finset.Ico 1 d.month, daysInMonth d.year j + d.day - 1 := by
  rw [dayNumber, daysBeforeYear_eq_sum hy, daysThrough_eq_sum d.year hm]

/-! ## The next date -/

/-- The next date of the calendar: the next day of the month, or after its last day the first of
the next month, which after December is January of the next year. -/
def successor (d : YearMonthDay) : YearMonthDay :=
  if d.day = daysInMonth d.year d.month then
    if d.month = 12 then { year := d.year + 1, month := 1, day := 1 }
    else { year := d.year, month := d.month + 1, day := 1 }
  else { year := d.year, month := d.month, day := d.day + 1 }

lemma successor_proper {d : YearMonthDay} (h : d.Proper) : d.successor.Proper := by
  obtain ⟨hm, hd⟩ := h
  rw [successor]
  split
  · split
    · have := daysInMonth_bounds (d.year + 1) (m := 1) (by omega) (by omega)
      exact proper_mk (by omega) (by omega)
    · have := daysInMonth_bounds d.year (m := d.month + 1) (by omega) (by omega)
      exact proper_mk (by omega) (by omega)
  · exact proper_mk hm (by omega)

lemma dayNumber_successor (d : YearMonthDay) : d.successor.dayNumber = d.dayNumber + 1 := by
  rw [successor]
  split
  · rename_i hlast
    rw [daysInMonth] at hlast
    split
    · -- the months of the year are used up, and the table ends with its length
      rename_i hdecember
      rw [hdecember] at hlast
      simp only [dayNumber, daysBeforeYear_succ, daysInYear, hdecember, hlast, Int.sub_self,
        daysThrough_zero]
      omega
    · simp only [dayNumber, Int.add_sub_cancel, hlast]
      omega
  · simp only [dayNumber]
    omega

/-- **The date of the next day is the next date.** -/
theorem ofDay_add_one (n : Int) : ofDay (n + 1) = (ofDay n).successor := by
  refine eq_of_dayNumber_eq (ofDay_proper _) (successor_proper (ofDay_proper n)) ?_
  rw [dayNumber_successor, dayNumber_ofDay, dayNumber_ofDay]

/-- The date some days on is the next date, taken that many times. -/
lemma ofDay_add (n : Int) (k : Nat) : ofDay (n + k) = successor^[k] (ofDay n) := by
  induction k with
  | zero => rw [Nat.cast_zero, Int.add_zero, Function.iterate_zero_apply]
  | succ k ih =>
    rw [Function.iterate_succ_apply', ← ih, ← ofDay_add_one, Nat.cast_succ, Int.add_assoc]

end YearMonthDay

/-- A date some days after another is found from it on the calendar, date by date. -/
lemma Date.eq_iterate_successor {d e : Date} {k : Nat} (h : e.dayNumber = d.dayNumber + k) :
    e.toYearMonthDay = YearMonthDay.successor^[k] d.toYearMonthDay := by
  have hwalk := YearMonthDay.ofDay_add d.dayNumber k
  rw [← h, dayNumber, dayNumber, YearMonthDay.ofDay_dayNumber e.valid.2,
    YearMonthDay.ofDay_dayNumber d.valid.2] at hwalk
  exact hwalk

/-! ## Counting on the calls -/

/-- **Day numbers count days.**  The day number of a valid date is the sum of the lengths of the
years and the months before it and of the days before it in its month; and the date of the next day
number is the next date of the calendar. -/
theorem toDayNumber_counts_days :
    (∀ y m d : Numeral, (YearMonthDay.mk y.value m.value d.value).Valid →
      Call.toDayNumber (.number y) (.number m) (.number d) =
          .ok (∑ i ∈ Finset.Ico 1 y.value, daysInYear i +
            ∑ j ∈ Finset.Ico 1 m.value, daysInMonth y.value j + d.value - 1) ∧
        (∀ i ∈ Finset.Ico 1 y.value, Call.daysInYear (.int i) = .ok (daysInYear i)) ∧
        (∀ j ∈ Finset.Ico 1 m.value,
          Call.daysInMonth (.number y) (.int j) = .ok (daysInMonth y.value j))) ∧
    (∀ n : Numeral, 0 ≤ n.value → n.value ≤ 3652057 →
      ∃ d : YearMonthDay, Call.fromDayNumber (.number n) = .ok d ∧
        Call.fromDayNumber (.int (n.value + 1)) = .ok d.successor) := by
  refine ⟨fun y m d hvalid => ?_, fun n hlow hhigh => ?_⟩
  · have ⟨⟨hy₁, hy₂⟩, ⟨hm₁, hm₂⟩, _⟩ := hvalid
    refine ⟨Call.toDayNumber_eq_ok_iff.2 ⟨hvalid, YearMonthDay.dayNumber_eq_sum hy₁ hm₁⟩, ?_, ?_⟩
    · intro i hi
      obtain ⟨hi₁, hi₂⟩ := Finset.mem_Ico.1 hi
      exact Call.daysInYear_eq_ok_iff.2 ⟨⟨hi₁, Int.le_trans (Int.le_of_lt hi₂) hy₂⟩, rfl⟩
    · intro j hj
      obtain ⟨hj₁, hj₂⟩ := Finset.mem_Ico.1 hj
      exact Call.daysInMonth_eq_ok_iff.2
        ⟨⟨hy₁, hy₂⟩, ⟨hj₁, Int.le_trans (Int.le_of_lt hj₂) hm₂⟩, rfl⟩
  · have hn : Representable n.value := ⟨hlow, Int.le_trans hhigh (by decide)⟩
    have hnext : Representable (n.value + 1) :=
      ⟨Int.le_trans hlow (Int.le_of_lt (Int.lt_succ _)), Int.add_le_add_right hhigh 1⟩
    refine ⟨YearMonthDay.ofDay n.value, Call.fromDayNumber_eq_ok_iff.2 ⟨hn, rfl⟩, ?_⟩
    exact Call.fromDayNumber_eq_ok_iff.2 ⟨hnext, YearMonthDay.ofDay_add_one n.value⟩

/-- From the last day of a leap year on to the first of the next. -/
theorem toDayNumber_counts_days_yearEnd :
    (0 ≤ (730484 : Int) ∧ (730484 : Int) ≤ 3652057) ∧
      ∃ d : YearMonthDay, Call.fromDayNumber (.int 730484) = .ok d ∧
        Call.fromDayNumber (.int (730484 + 1)) = .ok d.successor :=
  ⟨by decide, toDayNumber_counts_days.2 (.plain 730484) (by decide) (by decide)⟩

end BusinessCalendar
