import BusinessCalendar.Proofs.Gregorian.Correspondence
import BusinessCalendar.Proofs.Week.Extent

/-!
# The turns that numbering a week takes

Under a convention the week of a day is counted from week 1 of its own year.  A day before that week
is handed on: the last day of the year before is numbered in its place, and might be handed on in its
turn.  **It never is**: week 1 starts at most six days after 1 January, so that a year has always
reached it by 31 December, and numbering takes one turn or two (`weekNumbering_ends`).

The turns are written out here with the conversions between days and dates that they ask for, each of
them the call that refuses what lies outside the calendar.

* `Converting` — an outcome and the conversions asked for on the way to it.
* `WeekConvention.turn` — one turn: the number of a day's week, or the day that it is handed on to.
* `WeekConvention.Numbering` — the days on which turns are taken, one after the other, and the outcome.

What a turn on a representable day comes to is said once (`WeekConvention.turn_eq`).  From it, none of
its conversions fails (`succeeds_of_mem_asked`), it leads to a representable day if to any, and it is one
step of the recursion of `weekOfDay?`; by induction, whole numberings stay in the calendar
(`Numbering.representable`) and come to the number of the week (`Numbering.weekOfDay?_eq`).  How many
turns there are is read off the first one (`numbering_iff`).
-/

namespace BusinessCalendar

/-! ## Conversions -/

/-- A conversion between the line of days and the calendar. -/
inductive Conversion where
  | dateOf (day : Int)
  | dayOf (date : YearMonthDay)
deriving DecidableEq, Repr

namespace Conversion

/-- The day that is converted, or converted to. -/
def day : Conversion → Int
  | dateOf day => day
  | dayOf date => date.dayNumber

/-- The call that makes the conversion has an answer. -/
def Succeeds : Conversion → Prop
  | dateOf day => ∃ date, Call.fromDayNumber (.int day) = .ok date
  | dayOf date =>
    ∃ day, Call.toDayNumber (.int date.year) (.int date.month) (.int date.day) = .ok day

/-- Only the days of the calendar are converted. -/
lemma Succeeds.representable {q : Conversion} (h : q.Succeeds) : Representable q.day := by
  cases q with
  | dateOf day =>
    obtain ⟨date, hdate⟩ := h
    exact (Call.fromDayNumber_eq_ok_iff.1 hdate).1
  | dayOf date =>
    obtain ⟨day, hday⟩ := h
    exact YearMonthDay.representable_dayNumber (Call.toDayNumber_eq_ok_iff.1 hday).1

end Conversion

/-- An outcome and the conversions asked for on the way to it, in order. -/
structure Converting (α : Type) where
  asked : List Conversion
  outcome : Outcome α

namespace Converting

variable {α β : Type}

/-- What comes second is begun only after a success. -/
instance : Monad Converting where
  pure a := { asked := [], outcome := .ok a }
  bind x f :=
    match x.outcome with
    | .ok a => { asked := x.asked ++ (f a).asked, outcome := (f a).outcome }
    | .error e => { asked := x.asked, outcome := .error e }

def dateOf (day : Int) : Converting YearMonthDay :=
  { asked := [.dateOf day], outcome := Call.fromDayNumber (.int day) }

def dayOf (date : YearMonthDay) : Converting Int :=
  { asked := [.dayOf date]
    outcome := Call.toDayNumber (.int date.year) (.int date.month) (.int date.day) }

def refuse (c : Cause) : Converting α := { asked := [], outcome := raise c }

lemma bind_of_ok {x : Converting α} {a : α} (h : x.outcome = .ok a) (f : α → Converting β) :
    x >>= f = { asked := x.asked ++ (f a).asked, outcome := (f a).outcome } := by
  simp only [bind, h]

lemma dateOf_bind {n : Int} (h : Representable n) (f : YearMonthDay → Converting β) :
    dateOf n >>= f =
      { asked := .dateOf n :: (f (.ofDay n)).asked, outcome := (f (.ofDay n)).outcome } :=
  bind_of_ok (Call.fromDayNumber_int h) f

lemma dayOf_bind {d : YearMonthDay} (h : d.Valid) (f : Int → Converting β) :
    dayOf d >>= f =
      { asked := .dayOf d :: (f d.dayNumber).asked, outcome := (f d.dayNumber).outcome } :=
  bind_of_ok (Call.toDayNumber_int h) f

end Converting

/-! ## One turn -/

/-- What a turn comes to: the number of the day's week, or an earlier day with the same number. -/
inductive Turn where
  | numbered (week : Int)
  | handedOn (day : Int)
deriving DecidableEq, Repr

namespace WeekConvention

variable (c : WeekConvention)

/-- One turn of the numbering of a day, with the conversions that it asks for.  In the first year there
is no day to hand on to, and the refusal names the date. -/
def turn (n : Int) : Converting Turn := do
  let date ← .dateOf n
  let newYear ← .dayOf { year := date.year, month := 1, day := 1 }
  let day := n - c.weekOneStart newYear
  if 0 ≤ day then
    return .numbered (day / 7 + 1)
  else if date.year = minYear then
    let refused ← .dateOf n
    .refuse (.resultOutOfRange refused.iso (-1 : Int))
  else
    return .handedOn (newYear - 1)

/-- The days on which turns are taken to number the week of a day, one after the other, and what comes
of it in the end. -/
inductive Numbering : Int → List Int → Outcome Int → Prop where
  | numbered {n week : Int} : (c.turn n).outcome = .ok (.numbered week) →
      Numbering n [n] (.ok week)
  | refused {n : Int} {f : Fault} : (c.turn n).outcome = .error f → Numbering n [n] (.error f)
  | handedOn {n m : Int} {days : List Int} {outcome : Outcome Int} :
      (c.turn n).outcome = .ok (.handedOn m) → Numbering m days outcome →
        Numbering n (n :: days) outcome

variable {c} {year n : Int}

/-- The year of a representable day has a 1 January. -/
lemma valid_newYear (hn : Representable n)
    (hyear : newYearsDay year ≤ n ∧ n < newYearsDay (year + 1)) :
    (YearMonthDay.mk year 1 1).Valid := by
  have hrange := (YearMonthDay.ofDay_year_iff n).2 hn
  rw [YearMonthDay.ofDay_year_eq_iff.2 hyear] at hrange
  exact (Date.yearly year 1 1 hrange (by decide)).valid

/-- **What a turn on a representable day comes to, and what it asks for.** -/
theorem turn_eq (hn : Representable n)
    (hyear : newYearsDay year ≤ n ∧ n < newYearsDay (year + 1)) :
    c.turn n =
      if c.startOfWeek year 1 ≤ n then
        { asked := [.dateOf n, .dayOf { year, month := 1, day := 1 }]
          outcome := .ok (.numbered ((n - c.startOfWeek year 1) / 7 + 1)) }
      else if year = minYear then
        { asked := [.dateOf n, .dayOf { year, month := 1, day := 1 }, .dateOf n]
          outcome := raise (.resultOutOfRange (YearMonthDay.ofDay n).iso (-1 : Int)) }
      else
        { asked := [.dateOf n, .dayOf { year, month := 1, day := 1 }]
          outcome := .ok (.handedOn (newYearsDay year - 1)) } := by
  have hstart : c.weekOneStart (YearMonthDay.mk year 1 1).dayNumber = c.startOfWeek year 1 :=
    (c.startOfWeek_one year).symm
  rw [turn, Converting.dateOf_bind hn, YearMonthDay.ofDay_year_eq_iff.2 hyear,
    Converting.dayOf_bind (valid_newYear hn hyear)]
  simp only [hstart, Int.sub_nonneg]
  split_ifs
  · rfl
  · rw [Converting.dateOf_bind hn]
    rfl
  · rfl

/-- A turn asks for the date of its day and for the first day of that date's year, and for nothing
else. -/
lemma mem_asked_turn_iff (hn : Representable n)
    (hyear : newYearsDay year ≤ n ∧ n < newYearsDay (year + 1)) {q : Conversion} :
    q ∈ (c.turn n).asked ↔ q = .dateOf n ∨ q = .dayOf { year, month := 1, day := 1 } := by
  rw [turn_eq hn hyear]
  split_ifs
  all_goals simp only [List.mem_cons, List.not_mem_nil, or_false]
  -- the refusal asks for the date once more
  tauto

/-- No conversion of a turn on a representable day fails. -/
lemma succeeds_of_mem_asked (hn : Representable n) {q : Conversion}
    (hq : q ∈ (c.turn n).asked) : q.Succeeds := by
  have hyear := (YearMonthDay.ofDay_year_eq_iff (n := n)).1 rfl
  rcases (mem_asked_turn_iff hn hyear).1 hq with rfl | rfl
  · exact ⟨_, Call.fromDayNumber_int hn⟩
  · exact ⟨_, Call.toDayNumber_int (valid_newYear hn hyear)⟩

/-- A turn on a representable day leads to no other day than a representable one. -/
lemma representable_of_handedOn (hn : Representable n) {m : Int}
    (hm : (c.turn n).outcome = .ok (.handedOn m)) : Representable m := by
  have hyear := (YearMonthDay.ofDay_year_eq_iff (n := n)).1 rfl
  have hrange := ((YearMonthDay.ofDay_year_iff n).2 hn).1
  rw [turn_eq hn hyear] at hm
  split_ifs at hm with hone hfirst
  · cases hm
  · cases hm
  · cases hm
    -- in a later year 1 January is not the first day
    have hlater := newYearsDay_strictMono (lt_of_le_of_ne hrange (Ne.symm hfirst))
    rw [newYearsDay_min] at hlater
    rw [Representable] at hn ⊢
    omega

/-- A turn is one step of the recursion that the number of a week rests on. -/
lemma weekOfDay?_eq_turn (hn : Representable n) :
    c.weekOfDay? n =
      match (c.turn n).outcome with
      | .ok (.numbered week) => some week
      | .ok (.handedOn m) => c.weekOfDay? m
      | .error _ => none := by
  have hyear := (YearMonthDay.ofDay_year_eq_iff (n := n)).1 rfl
  have hrange := ((YearMonthDay.ofDay_year_iff n).2 hn).1
  rw [turn_eq hn hyear]
  split_ifs with hone hfirst
  · exact weekOfDay?_eq hyear hone
  · exact (weekOfDay?_eq_none_iff hrange hyear).2 ⟨hfirst, Int.not_le.1 hone⟩
  · exact weekOfDay?_before (lt_of_le_of_ne hrange (Ne.symm hfirst)) hyear (Int.not_le.1 hone)

/-! ## The turns of a numbering -/

variable {days : List Int} {outcome : Outcome Int}

/-- From a representable day on, all turns are taken on representable days. -/
lemma Numbering.representable (h : c.Numbering n days outcome) (hn : Representable n) :
    ∀ m ∈ days, Representable m := by
  induction h with
  | numbered => exact List.forall_mem_singleton.2 hn
  | refused => exact List.forall_mem_singleton.2 hn
  | handedOn hturn _ ih =>
    exact List.forall_mem_cons.2 ⟨hn, ih (representable_of_handedOn hn hturn)⟩

/-- **However many turns a numbering takes, it comes to the number of the day's week.** -/
theorem Numbering.weekOfDay?_eq (h : c.Numbering n days outcome) (hn : Representable n) :
    c.weekOfDay? n = outcome.toOption := by
  induction h with
  | numbered hturn => rw [weekOfDay?_eq_turn hn, hturn]; rfl
  | refused hturn => rw [weekOfDay?_eq_turn hn, hturn]; rfl
  | handedOn hturn _ ih =>
    rw [weekOfDay?_eq_turn hn, hturn]
    exact ih (representable_of_handedOn hn hturn)

/-- **The first turn decides how a numbering goes on.** -/
theorem numbering_iff :
    c.Numbering n days outcome ↔
      match (c.turn n).outcome with
      | .ok (.numbered week) => days = [n] ∧ outcome = .ok week
      | .ok (.handedOn m) => ∃ rest, days = n :: rest ∧ c.Numbering m rest outcome
      | .error f => days = [n] ∧ outcome = .error f := by
  constructor
  · intro h
    cases h with
    | numbered hturn => simp only [hturn, and_self]
    | refused hturn => simp only [hturn, and_self]
    | handedOn hturn hrest =>
      simp only [hturn]
      exact ⟨_, rfl, hrest⟩
  · intro h
    split at h
    case h_1 week hturn =>
      obtain ⟨rfl, rfl⟩ := h
      exact .numbered hturn
    case h_2 m hturn =>
      obtain ⟨rest, rfl, hrest⟩ := h
      exact .handedOn hturn hrest
    case h_3 f hturn =>
      obtain ⟨rfl, rfl⟩ := h
      exact .refused hturn

/-! ## How many turns there are -/

/-- A day that week 1 of its year has reached is numbered at once. -/
lemma numbering_iff_of_reached (hn : Representable n)
    (hyear : newYearsDay year ≤ n ∧ n < newYearsDay (year + 1)) (hone : c.startOfWeek year 1 ≤ n) :
    c.Numbering n days outcome ↔
      days = [n] ∧ outcome = .ok ((n - c.startOfWeek year 1) / 7 + 1) := by
  rw [numbering_iff, turn_eq hn hyear, if_pos hone]

/-- The last day of a year is numbered at once. -/
lemma exists_numbering_lastDay_iff (c : WeekConvention) (year : Int)
    (hn : Representable (newYearsDay (year + 1) - 1)) :
    ∃ week, ∀ days outcome, c.Numbering (newYearsDay (year + 1) - 1) days outcome ↔
      days = [newYearsDay (year + 1) - 1] ∧ outcome = .ok week := by
  have hone := c.startOfWeek_one_lt year
  exact ⟨_, fun _ _ => numbering_iff_of_reached hn (lastDay_mem_year year) (by omega)⟩

/-- A day before week 1 of a later year is handed on once. -/
lemma exists_numbering_iff_of_before (hn : Representable n) (hlater : minYear < year)
    (hyear : newYearsDay year ≤ n ∧ n < newYearsDay (year + 1)) (hone : n < c.startOfWeek year 1) :
    ∃ week, ∀ days outcome, c.Numbering n days outcome ↔
      days = [n, newYearsDay year - 1] ∧ outcome = .ok week := by
  have hturn : (c.turn n).outcome = .ok (.handedOn (newYearsDay year - 1)) := by
    rw [turn_eq hn hyear, if_neg (Int.not_le.2 hone), if_neg (Int.ne_of_gt hlater)]
  have hlast := c.exists_numbering_lastDay_iff (year - 1)
  rw [Int.sub_add_cancel] at hlast
  obtain ⟨week, hweek⟩ := hlast (representable_of_handedOn hn hturn)
  refine ⟨week, fun days outcome => ?_⟩
  rw [numbering_iff, hturn]
  simp only [hweek]
  constructor
  · rintro ⟨_, rfl, rfl, rfl⟩
    exact ⟨rfl, rfl⟩
  · rintro ⟨rfl, rfl⟩
    exact ⟨_, rfl, rfl, rfl⟩

/-- A day of the first year before week 1 is refused at once. -/
lemma numbering_iff_of_first (hn : Representable n)
    (hyear : newYearsDay minYear ≤ n ∧ n < newYearsDay (minYear + 1))
    (hone : n < c.startOfWeek minYear 1) :
    c.Numbering n days outcome ↔
      days = [n] ∧ outcome = raise (.resultOutOfRange (YearMonthDay.ofDay n).iso (-1 : Int)) := by
  rw [numbering_iff, turn_eq hn hyear, if_neg (Int.not_le.2 hone), if_pos rfl]
  rfl

/-- **A day is numbered in one way**: at once, or handed on once to the last day of the year before. -/
theorem exists_numbering_iff (c : WeekConvention) (hn : Representable n)
    (hyear : newYearsDay year ≤ n ∧ n < newYearsDay (year + 1)) :
    ∃ taken result,
      (∀ days outcome, c.Numbering n days outcome ↔ days = taken ∧ outcome = result) ∧
      (taken = [n] ∨ minYear < year ∧ taken = [n, newYearsDay year - 1]) ∧
      ((∃ week, result = .ok week) ∨
        result = raise (.resultOutOfRange (YearMonthDay.ofDay n).iso (-1 : Int))) := by
  have hrange := (YearMonthDay.ofDay_year_iff n).2 hn
  rw [YearMonthDay.ofDay_year_eq_iff.2 hyear] at hrange
  rcases Int.lt_or_le n (c.startOfWeek year 1) with hone | hone
  · rcases Int.lt_or_eq_of_le hrange.1 with hlater | rfl
    · obtain ⟨week, hweek⟩ := exists_numbering_iff_of_before hn hlater hyear hone
      exact ⟨_, _, hweek, .inr ⟨hlater, rfl⟩, .inl ⟨week, rfl⟩⟩
    · exact ⟨_, _, fun _ _ => numbering_iff_of_first hn hyear hone, .inl rfl, .inr rfl⟩
  · exact ⟨_, _, fun _ _ => numbering_iff_of_reached hn hyear hone, .inl rfl, .inl ⟨_, rfl⟩⟩

end WeekConvention

/-! ## The calls -/

/-- 31 December is the day before the next year. -/
lemma Call.toDayNumber_yearEnd {y : Int} (hy : minYear ≤ y ∧ y ≤ maxYear) :
    toDayNumber (.int y) (.int 12) (.int 31) = .ok (newYearsDay (y + 1) - 1) := by
  rw [← Date.dayNumber_yearEnd y hy]
  exact toDayNumber_int (Date.yearEnd y hy).valid

/-- The numbering of a date gives what the call gives. -/
lemma WeekConvention.Numbering.eq_weekOfYear {c : WeekConvention} {v : Moment} {days : List Int}
    {outcome : Outcome Int} (h : c.Numbering v.dayNumber days outcome)
    (hresult : (∃ week, outcome = .ok week) ∨
      outcome = raise (.resultOutOfRange (YearMonthDay.ofDay v.dayNumber).iso (-1 : Int))) :
    outcome = Call.weekOfYear (.moment v) (.convention c) := by
  have hweek := h.weekOfDay?_eq v.representable_dayNumber
  rcases hresult with ⟨week, rfl⟩ | rfl
  · exact (Call.weekOfYear_eq_ok_iff.2 hweek).symm
  · rw [Moment.dayNumber, Date.dayNumber, YearMonthDay.ofDay_dayNumber v.date.valid.2]
    rw [raise, Call.fault_before_weekOne]
    exact (Call.weekOfYear_eq_error_iff.2 ⟨hweek, rfl⟩).symm

/-- **Numbering the week of a date ends after one turn or two, inside the calendar.**  In every year
week 1 starts within six days of 1 January, so that 31 December is not before it and is numbered at
once.  Every date is numbered in one way, which gives what the call gives: on the day itself or, in a
later year than the first, on the day and then on 31 December of the year before.  None of the
conversions asked for in those turns fails, and all of them are conversions of the days 0 to
3652058. -/
theorem weekNumbering_ends (c : WeekConvention) (y : Int) (hy : 1 ≤ y ∧ y ≤ 9999) :
    ∃ newYear lastDay,
      Call.toDayNumber (.int y) (.int 1) (.int 1) = .ok newYear ∧
      Call.toDayNumber (.int y) (.int 12) (.int 31) = .ok lastDay ∧
      (newYear - 6 ≤ c.weekOneStart newYear ∧ c.weekOneStart newYear ≤ newYear + 6) ∧
      c.weekOneStart newYear ≤ lastDay ∧
      (∃ week, ∀ taken outcome,
        c.Numbering lastDay taken outcome ↔ taken = [lastDay] ∧ outcome = .ok week) ∧
      ∀ v : Moment, v.date.year = y → ∃ days,
        (∀ taken outcome, c.Numbering v.dayNumber taken outcome ↔
          taken = days ∧ outcome = Call.weekOfYear (.moment v) (.convention c)) ∧
        (days = [v.dayNumber] ∨ ∃ before,
          Call.toDayNumber (.int (y - 1)) (.int 12) (.int 31) = .ok before ∧
            days = [v.dayNumber, before]) ∧
        ∀ day ∈ days, ∀ q ∈ (c.turn day).asked, q.Succeeds ∧ 0 ≤ q.day ∧ q.day ≤ 3652058 := by
  have hyear : minYear ≤ y ∧ y ≤ maxYear := hy
  have hbounds := c.weekOneStart_bounds (newYearsDay y)
  have hlength := newYearsDay_step y
  have hlast : Representable (newYearsDay (y + 1) - 1) :=
    Date.dayNumber_yearEnd y hyear ▸ (Date.yearEnd y hyear).representable_dayNumber
  refine ⟨newYearsDay y, newYearsDay (y + 1) - 1,
    Call.toDayNumber_int (Date.yearly y 1 1 hyear (by decide)).valid,
    Call.toDayNumber_yearEnd hyear, hbounds, by omega,
    c.exists_numbering_lastDay_iff y hlast, ?_⟩
  rintro v rfl
  have hday : Representable v.dayNumber := v.representable_dayNumber
  obtain ⟨days, outcome, hnumbering, hturns, hresult⟩ :=
    c.exists_numbering_iff hday v.date.dayNumber_mem_year
  have htaken := (hnumbering days outcome).2 ⟨rfl, rfl⟩
  rw [← htaken.eq_weekOfYear hresult]
  refine ⟨days, hnumbering, hturns.imp_right ?_, fun day hmem q hq => ?_⟩
  · rintro ⟨hlater, rfl⟩
    refine ⟨_, ?_, rfl⟩
    rw [Call.toDayNumber_yearEnd ⟨Int.le_sub_one_of_lt hlater, by omega⟩, Int.sub_add_cancel]
  · have hsucceeds :=
      WeekConvention.succeeds_of_mem_asked (htaken.representable hday day hmem) hq
    exact ⟨hsucceeds, hsucceeds.representable⟩

/-- Under the ISO convention 1 January 2021, a Friday, is handed on to 31 December 2020, which is in
week 53 and is not handed on any further. -/
theorem weekNumbering_ends_newYear2021 :
    (1 ≤ (2021 : Int) ∧ (2021 : Int) ≤ 9999) ∧
      (Date.yearly 2021 1 1 (by decide) (by decide)).year = 2021 ∧
      Call.toDayNumber (.int 2020) (.int 12) (.int 31) = .ok 737789 ∧
      WeekConvention.iso.Numbering 737790 [737790, 737789] (.ok 53) ∧
      Call.weekOfYear (.date (.yearly 2021 1 1 (by decide) (by decide))) (.convention .iso) = .ok 53 ∧
      ∀ q ∈ (WeekConvention.iso.turn 737789).asked, q.Succeeds ∧ 0 ≤ q.day ∧ q.day ≤ 3652058 := by
  have hnumbering : WeekConvention.iso.Numbering 737790 [737790, 737789] (.ok 53) :=
    .handedOn rfl (.numbered rfl)
  obtain ⟨_, _, -, -, -, -, -, hdates⟩ := weekNumbering_ends .iso 2021 (by decide)
  obtain ⟨days, hdays, -, hasked⟩ := hdates (.ofDate (.yearly 2021 1 1 (by decide) (by decide))) rfl
  obtain ⟨rfl, hweek⟩ := (hdays _ _).1 hnumbering
  exact ⟨by decide, rfl, Call.toDayNumber_yearEnd (by decide), hnumbering, hweek.symm,
    hasked 737789 (by decide)⟩

end BusinessCalendar
