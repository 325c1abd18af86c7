import BusinessCalendar.Proofs.Quarter.Tiling

/-!
# Quarters whose bounds have clocks

The two bounds of a quarter are compared as they stand: plain dates by their days, times of day by the
clock on the wall and, where they have offsets, as instants.  Its length and the dates that it
contains are found from the days of its bounds alone.  **Bounds in the one order are in the other
order as well, unless the first is written with an offset further east than the last**
(`quarter_bounds_inOrder`): to the east an instant is written with a later day, so that the last day
of such a quarter can come before its first (`Moment.exists_bounds_not_daysInOrder`).

* `Moment.instant` — where a moment is on the line of instants; `Moment.before_eq_ok_iff` — this is
  what moments are compared by.
* `Moment.Regular` — a time of day within the day, with an offset of less than a day.
* `DaysInOrder` — what a quarter should have of its days; `daysInOrder_iff` — it has all of it or
  nothing.
-/

namespace BusinessCalendar

/-! ## Moments on the line of instants -/

namespace Moment

/-- Whether a moment has a clock, and if so whether the clock has an offset. -/
def reckoning (m : Moment) : Option Bool := m.clock.map fun c => c.offset.isSome

/-- Microseconds since midnight; a plain date stands for midnight. -/
def timeOfDay (m : Moment) : Int := (m.clock.map fun c => (c.microsecond : Int)).getD 0

/-- The offset east of universal time, zero if there is none. -/
def offset (m : Moment) : Int := (m.clock.bind Clock.offset).getD 0

def instant (m : Moment) : Int := m.dayNumber * microsecondsPerDay + m.timeOfDay - m.offset

/-- A time of day comes before the next midnight, and an offset is less than a day either way. -/
def Regular (m : Moment) : Prop :=
  m.timeOfDay < microsecondsPerDay ∧ -microsecondsPerDay < m.offset ∧ m.offset < microsecondsPerDay

instance (m : Moment) : Decidable m.Regular := by unfold Regular; infer_instance

variable {a b : Moment}

lemma timeOfDay_nonneg (m : Moment) : 0 ≤ m.timeOfDay := by
  obtain ⟨d, c⟩ := m
  cases c with
  | none => exact Int.le_refl 0
  | some c => exact Int.natCast_nonneg c.microsecond

/-- **Moments of one reckoning are compared by their instants.** -/
theorem before_eq (h : a.reckoning = b.reckoning) :
    a.before b = .ok (decide (a.instant < b.instant)) := by
  obtain ⟨d, c⟩ := a
  obtain ⟨e, c'⟩ := b
  -- two plain dates, two clocks without an offset, two with one; no other pair has one reckoning
  rcases c with _ | ⟨t, _ | x⟩ <;> rcases c' with _ | ⟨u, _ | y⟩
  case none.none =>
    refine congrArg Except.ok (decide_eq_decide.2 ?_)
    simp only [dayNumber, instant, timeOfDay, offset, microsecondsPerDay, Option.map_none,
      Option.bind_none, Option.getD_none]
    omega
  case some.none.some.none =>
    refine congrArg Except.ok (decide_eq_decide.2 ?_)
    simp only [instant, timeOfDay, offset, wall, Option.map_some, Option.bind_some,
      Option.getD_some, Option.getD_none, Int.sub_zero]
  case some.some.some.some => rfl
  all_goals cases h

/-- Moments of two reckonings are not compared. -/
lemma reckoning_eq_of_before {r : Bool} (h : a.before b = .ok r) :
    a.reckoning = b.reckoning := by
  obtain ⟨d, c⟩ := a
  obtain ⟨e, c'⟩ := b
  rcases c with _ | ⟨t, _ | x⟩ <;> rcases c' with _ | ⟨u, _ | y⟩
  case none.none => rfl
  case some.none.some.none => rfl
  case some.some.some.some => rfl
  all_goals cases h

lemma before_eq_ok_false_iff :
    a.before b = .ok false ↔ a.reckoning = b.reckoning ∧ b.instant ≤ a.instant := by
  constructor
  · intro h
    have hreckoning := reckoning_eq_of_before h
    rw [before_eq hreckoning, Except.ok.injEq, decide_eq_false_iff_not] at h
    exact ⟨hreckoning, Int.not_lt.1 h⟩
  · rintro ⟨hreckoning, hinstant⟩
    rw [before_eq hreckoning, decide_eq_false (Int.not_lt.2 hinstant)]

/-- A later instant that is written further east has no earlier day. -/
lemma dayNumber_le_of_instant_le (hb : b.Regular) (h : a.instant ≤ b.instant)
    (hoffset : a.offset ≤ b.offset) : a.dayNumber ≤ b.dayNumber := by
  have hfirst := a.timeOfDay_nonneg
  have hlast := hb.1
  simp only [instant, microsecondsPerDay] at h hlast
  omega

lemma dayNumber_le_add_two_of_instant_le (ha : a.Regular) (hb : b.Regular)
    (h : a.instant ≤ b.instant) : a.dayNumber ≤ b.dayNumber + 2 := by
  have hfirst := a.timeOfDay_nonneg
  obtain ⟨-, -, heast⟩ := ha
  obtain ⟨hlast, hwest, -⟩ := hb
  simp only [instant, microsecondsPerDay] at h hlast heast hwest
  omega

end Moment

/-! ## Quarters as they are written -/

namespace Value

lemma before_moment (a b : Moment) : (moment a).before (moment b) = a.before b := by
  rw [before]

end Value

/-- **A quarter is made of a year, an index in range and two bounds of one reckoning, the last of
which is not an earlier instant**; the year and the days of the bounds are not looked at. -/
theorem Call.quarter_moment_eq_ok_iff {year index q : Value} {start stop : Moment} :
    quarter year index (.moment start) (.moment stop) = .ok q ↔
      (∃ n, index = .number n ∧ 1 ≤ n.value ∧ n.value ≤ 4) ∧
        start.reckoning = stop.reckoning ∧ start.instant ≤ stop.instant ∧
          q = .quarter year index (.moment start) (.moment stop) := by
  simp only [quarter, Value.before_moment, bind_eq_ok_iff, Value.requireQuarter_eq_ok_iff]
  constructor
  · rintro ⟨_, ⟨n, rfl, hn, -⟩, precedes, hbefore, hq⟩
    cases precedes with
    | true => cases hq
    | false =>
      obtain ⟨hreckoning, hinstant⟩ := Moment.before_eq_ok_false_iff.1 hbefore
      exact ⟨⟨n, rfl, hn⟩, hreckoning.symm, hinstant, (Except.ok.inj hq).symm⟩
  · rintro ⟨⟨n, rfl, hn⟩, hreckoning, hinstant, rfl⟩
    have hbefore := Moment.before_eq_ok_false_iff.2 ⟨hreckoning.symm, hinstant⟩
    exact ⟨_, ⟨n, rfl, hn, rfl⟩, false, hbefore, rfl⟩

/-- What a quarter should have of its days: its bounds are in their order, it has at least one day,
and both bounds are days of it. -/
structure DaysInOrder (start stop : Moment) : Prop where
  start_le_stop : start.dayNumber ≤ stop.dayNumber
  length_pos : ∃ n, Call.quarterDays (.moment start) (.moment stop) = .ok n ∧ 1 ≤ n
  contains_start : Call.quarterContains (.moment start) (.moment stop) (.moment start) = .ok true
  contains_stop : Call.quarterContains (.moment start) (.moment stop) (.moment stop) = .ok true

section DaysInOrder

variable {start stop : Moment}

lemma daysInOrder_iff : DaysInOrder start stop ↔ start.dayNumber ≤ stop.dayNumber := by
  constructor
  · exact DaysInOrder.start_le_stop
  · intro h
    constructor
    case start_le_stop => exact h
    case length_pos => exact ⟨_, Call.quarterDays_moment start stop, by omega⟩
    case contains_start => rw [Call.quarterContains_moment, decide_eq_true ⟨Int.le_refl _, h⟩]
    case contains_stop => rw [Call.quarterContains_moment, decide_eq_true ⟨h, Int.le_refl _⟩]

/-- A quarter whose last day comes before its first has no day and contains neither bound. -/
lemma contains_neither_of_not_daysInOrder (h : ¬DaysInOrder start stop) :
    Call.quarterContains (.moment start) (.moment stop) (.moment start) = .ok false ∧
      Call.quarterContains (.moment start) (.moment stop) (.moment stop) = .ok false := by
  rw [daysInOrder_iff] at h
  rw [Call.quarterContains_moment, Call.quarterContains_moment,
    decide_eq_false fun hdays => h hdays.2, decide_eq_false fun hdays => h hdays.1]
  exact ⟨rfl, rfl⟩

end DaysInOrder

/-- **The bounds of a quarter are in the order of their days, unless the first is written further
east than the last.**  This covers plain dates and times without an offset, which count as written
without going east or west.  Otherwise the last day can come up to two days before the first, and the
quarter then has no day and contains neither of its bounds. -/
theorem quarter_bounds_inOrder (year index q : Value) (start stop : Moment)
    (hstart : start.Regular) (hstop : stop.Regular)
    (h : Call.quarter year index (.moment start) (.moment stop) = .ok q) :
    q = .quarter year index (.moment start) (.moment stop) ∧
      (start.offset ≤ stop.offset → DaysInOrder start stop) ∧
      start.dayNumber ≤ stop.dayNumber + 2 ∧
      (¬DaysInOrder start stop →
        (∃ n, Call.quarterDays (.moment start) (.moment stop) = .ok n ∧ -1 ≤ n ∧ n ≤ 0) ∧
        Call.quarterContains (.moment start) (.moment stop) (.moment start) = .ok false ∧
        Call.quarterContains (.moment start) (.moment stop) (.moment stop) = .ok false) := by
  obtain ⟨-, -, hinstant, hq⟩ := Call.quarter_moment_eq_ok_iff.1 h
  have hclose := Moment.dayNumber_le_add_two_of_instant_le hstart hstop hinstant
  refine ⟨hq, ?_, hclose, ?_⟩
  · intro hoffset
    exact daysInOrder_iff.2 (Moment.dayNumber_le_of_instant_le hstop hinstant hoffset)
  · intro hdisorder
    refine ⟨⟨_, Call.quarterDays_moment start stop, ?_⟩,
      contains_neither_of_not_daysInOrder hdisorder⟩
    rw [daysInOrder_iff] at hdisorder
    omega

/-- Half past ten in the evening of the last day of 2023, five hours behind universal time. -/
def Moment.newYearsEveWest : Moment where
  date := { year := 2023, month := 12, day := 31, valid := by decide }
  clock := some { microsecond := 81000000000, offset := some (-18000000000) }

/-- Half past nine in the morning of the next day, five and a half hours ahead of universal time. -/
def Moment.newYearEast : Moment where
  date := { year := 2024, month := 1, day := 1, valid := by decide }
  clock := some { microsecond := 34200000000, offset := some 19800000000 }

/-- Half an hour apart, eastward and into the next day. -/
theorem quarter_bounds_inOrder_eastward :
    Moment.newYearsEveWest.Regular ∧ Moment.newYearEast.Regular ∧
      (∃ q, Call.quarter (.int 2024) (.int 1) (.moment .newYearsEveWest) (.moment .newYearEast) =
        .ok q) ∧
      DaysInOrder .newYearsEveWest .newYearEast := by
  have hquarter : Call.quarter (.int 2024) (.int 1) (.moment .newYearsEveWest)
      (.moment .newYearEast) = .ok (.quarter (.int 2024) (.int 1) (.moment .newYearsEveWest)
        (.moment .newYearEast)) :=
    Call.quarter_moment_eq_ok_iff.2 ⟨⟨.plain 1, rfl, by decide⟩, rfl, by decide, rfl⟩
  obtain ⟨-, hinOrder, -⟩ := quarter_bounds_inOrder _ _ _ _ _ (by decide) (by decide) hquarter
  exact ⟨by decide, by decide, ⟨_, hquarter⟩, hinOrder (by decide)⟩

/-- **Of bounds that go west some are out of order**, whatever the two offsets are: midnight in the
east comes before the end of the previous day in the west. -/
theorem Moment.exists_bounds_not_daysInOrder {east west : Int}
    (heast : east < microsecondsPerDay) (hwest : -microsecondsPerDay < west) (h : west < east)
    (year : Value) {n : Numeral} (hn : 1 ≤ n.value ∧ n.value ≤ 4) :
    ∃ start stop : Moment, start.Regular ∧ stop.Regular ∧ start.offset = east ∧
      stop.offset = west ∧ ¬DaysInOrder start stop ∧
      ∃ q, Call.quarter year (.number n) (.moment start) (.moment stop) = .ok q := by
  let midnight : Clock := { microsecond := 0, offset := some east }
  let dayEnd : Clock := { microsecond := 86399999999, offset := some west }
  let start : Moment := { date := Date.ofDay 1 (by decide), clock := some midnight }
  let stop : Moment := { date := Date.ofDay 0 (by decide), clock := some dayEnd }
  have hfirst : start.dayNumber = 1 := Date.dayNumber_ofDay 1 (by decide)
  have hlast : stop.dayNumber = 0 := Date.dayNumber_ofDay 0 (by decide)
  have hinstant : start.instant ≤ stop.instant := by
    have hstart : start.instant = 1 * microsecondsPerDay + 0 - east := by rw [← hfirst]; rfl
    have hstop : stop.instant = 0 * microsecondsPerDay + 86399999999 - west := by
      rw [← hlast]; rfl
    rw [hstart, hstop, microsecondsPerDay]
    omega
  have hmidnight : start.timeOfDay < microsecondsPerDay := show (0 : Int) < _ by decide
  have hdayEnd : stop.timeOfDay < microsecondsPerDay := show (86399999999 : Int) < _ by decide
  refine ⟨start, stop, ⟨hmidnight, ?_, heast⟩, ⟨hdayEnd, hwest, ?_⟩, rfl, rfl, ?_,
    ⟨_, Call.quarter_moment_eq_ok_iff.2 ⟨⟨n, rfl, hn⟩, rfl, hinstant, rfl⟩⟩⟩
  · exact Int.lt_trans hwest h
  · exact Int.lt_trans h heast
  · rw [daysInOrder_iff, hfirst, hlast]
    decide

/-- Half past midnight, five hours ahead of universal time. -/
def Moment.midnightEast : Moment where
  date := { year := 2024, month := 1, day := 2, valid := by decide }
  clock := some { microsecond := 1800000000, offset := some 18000000000 }

/-- Three and a half hours later, by universal time the evening before. -/
def Moment.eveningWest : Moment where
  date := { year := 2024, month := 1, day := 1, valid := by decide }
  clock := some { microsecond := 82800000000, offset := some 0 }

/-- The last day of this quarter is the day before its first: it has no day and contains neither
bound. -/
theorem quarter_bounds_westward :
    Moment.midnightEast.Regular ∧ Moment.eveningWest.Regular ∧
      (∃ q, Call.quarter (.int 2024) (.int 1) (.moment .midnightEast) (.moment .eveningWest) =
        .ok q) ∧
      Moment.eveningWest.dayNumber < Moment.midnightEast.dayNumber ∧
      Call.quarterDays (.moment .midnightEast) (.moment .eveningWest) = .ok 0 ∧
      Call.quarterContains (.moment .midnightEast) (.moment .eveningWest)
        (.moment .midnightEast) = .ok false ∧
      Call.quarterContains (.moment .midnightEast) (.moment .eveningWest)
        (.moment .eveningWest) = .ok false := by
  refine ⟨by decide, by decide, ⟨_, Call.quarter_moment_eq_ok_iff.2
    ⟨⟨.plain 1, rfl, by decide⟩, rfl, by decide, rfl⟩⟩, by decide, ?_,
    contains_neither_of_not_daysInOrder ?_⟩
  · rw [Call.quarterDays_moment]
    exact congrArg Except.ok (by decide)
  · rw [daysInOrder_iff]
    decide

end BusinessCalendar
