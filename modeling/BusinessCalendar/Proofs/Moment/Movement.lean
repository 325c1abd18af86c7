import BusinessCalendar.Proofs.Gregorian.Counting
import BusinessCalendar.Proofs.Moment.Clock

/-!
# Moving by whole days

A movement leads from a moment to a day of the unbounded line.  It gets there, with the clock of the
moment, as long as that day is representable, and is refused otherwise (`Moment.Reaches`).  A
movement that is described in this way is known completely, so what two of them do side by side
follows from their days alone (`Reaches.agree`).

* `Moment.reaches_shift` — moving by a number of days.  A number that is too long for the complaint
  leads out of the calendar, and fails in a way of its own (`Moment.shift_eq_wording`).
* `Date.Walk` — the calendar walked date by date, forwards or backwards.
* **`shiftDays_exact`** — moving on the calls: where it leads, in one step or in two, and back.
-/

namespace BusinessCalendar

/-! ## Movements to a day -/

/-- The report on a movement names the number of days, and a date, for which there are always words. -/
lemma Cause.writable_resultOutOfRange_iff {date : String} {days : Int} :
    Writable (.resultOutOfRange date days) ↔ (Numeral.plain days).Writable :=
  List.forall_mem_singleton

namespace Moment

lemma eq_of_dayNumber_eq {m r : Moment} (hday : m.dayNumber = r.dayNumber)
    (hclock : m.clock = r.clock) : m = r := by
  cases m
  cases r
  rw [mk.injEq]
  exact ⟨Date.dayNumber_inj hday, hclock⟩

/-- The outcome of a movement from a moment to a day: the moment of that day with the same clock, or
a refusal because the day is not representable. -/
inductive Reaches (m : Moment) (day : Int) : Outcome Moment → Prop
  | arrived {r : Moment} (hday : r.dayNumber = day) (hclock : r.clock = m.clock) :
    Reaches m day (.ok r)
  | refused {f : Fault} (hday : ¬Representable day) (hkind : f.kind = .range)
    (hcode : f.code? = some .resultOutOfRange) : Reaches m day (.error f)

/-- Moving by a number of days that can be put into words. -/
lemma reaches_shift (m : Moment) {days : Int} (hdays : (Numeral.plain days).Writable) :
    m.Reaches (m.dayNumber + days) (liftM (m.shift days)) := by
  rw [shift]
  by_cases h : Representable (m.dayNumber + days)
  · rw [dif_pos h, liftM_ok]
    exact .arrived (Date.dayNumber_ofDay _ h) rfl
  · rw [dif_neg h, liftM_error, Cause.fault_eq (Cause.writable_resultOutOfRange_iff.2 hdays)]
    exact .refused h rfl (Fault.code?_cause _)

/-- Moving by a number of days of at most eight digits. -/
lemma reaches_shift_of_natAbs_lt (m : Moment) {days : Int} (hdays : days.natAbs < 10 ^ 8) :
    m.Reaches (m.dayNumber + days) (liftM (m.shift days)) :=
  m.reaches_shift (Numeral.writable_of_natAbs_lt hdays)

/-- A number of days that cannot be put into words leads further than any date. -/
lemma not_representable_add (m : Moment) {days : Int} (hdays : ¬(Numeral.plain days).Writable) :
    ¬Representable (m.dayNumber + days) := by
  have hday := m.representable_dayNumber
  have hfar : ¬days.natAbs < 10 ^ 8 := fun h => hdays (Numeral.writable_of_natAbs_lt h)
  simp only [Representable, minDay, maxDay] at hday ⊢
  omega

/-- Such a movement is refused, but there are no words for its cause. -/
lemma shift_eq_wording (m : Moment) {days : Int} (hdays : ¬(Numeral.plain days).Writable) :
    (liftM (m.shift days) : Outcome Moment) = .error (.wording .tooManyDigits) := by
  rw [shift, dif_neg (m.not_representable_add hdays), liftM_error,
    Cause.fault_eq_wording (mt Cause.writable_resultOutOfRange_iff.1 hdays)]

namespace Reaches

variable {m : Moment} {day : Int} {x : Outcome Moment}

lemma eq_ok_iff (h : m.Reaches day x) {r : Moment} :
    x = .ok r ↔ r.dayNumber = day ∧ r.clock = m.clock := by
  cases h with
  | @arrived t hday hclock =>
    rw [Except.ok.injEq]
    constructor
    · rintro rfl
      exact ⟨hday, hclock⟩
    · rintro ⟨hr, hc⟩
      exact eq_of_dayNumber_eq (hday.trans hr.symm) (hclock.trans hc.symm)
  | refused hday _ _ =>
    refine iff_of_false (fun heq => by cases heq) fun hr => hday ?_
    rw [← hr.1]
    exact r.representable_dayNumber

lemma exists_ok_iff (h : m.Reaches day x) : (∃ r, x = .ok r) ↔ Representable day := by
  cases h with
  | @arrived t hday _ =>
    refine iff_of_true ⟨t, rfl⟩ ?_
    rw [← hday]
    exact t.representable_dayNumber
  | refused hday _ _ => exact iff_of_false (fun ⟨_, heq⟩ => by cases heq) hday

lemma exists_error_iff (h : m.Reaches day x) : (∃ f, x = .error f) ↔ ¬Representable day := by
  rw [← h.exists_ok_iff]
  cases x with
  | ok r => simp
  | error f => simp

/-- A refusal is always for the same reason. -/
lemma refusal (h : m.Reaches day x) {f : Fault} (hf : x = .error f) :
    f.kind = .range ∧ f.code? = some .resultOutOfRange := by
  cases h with
  | arrived _ _ => cases hf
  | refused _ hkind hcode =>
    cases hf
    exact ⟨hkind, hcode⟩

/-- **Movements to one day with one clock agree**, wherever they start and however they go. -/
theorem agree {s : Moment} {y : Outcome Moment} (hx : m.Reaches day x) (hy : s.Reaches day y)
    (hclock : m.clock = s.clock) : Agree Eq x y := by
  cases hx with
  | arrived hday hc =>
    cases hy with
    | arrived hday' hc' =>
      exact .ok (eq_of_dayNumber_eq (hday.trans hday'.symm) (hc.trans (hclock.trans hc'.symm)))
    | refused hbad _ _ =>
      rw [← hday] at hbad
      exact absurd (representable_dayNumber _) hbad
  | refused hbad hkind hcode =>
    cases hy with
    | arrived hday _ =>
      rw [← hday] at hbad
      exact absurd (representable_dayNumber _) hbad
    | refused _ hkind' hcode' =>
      exact .error (hkind.trans hkind'.symm) (hcode.trans hcode'.symm)

lemma congr_clock (h : m.Reaches day x) {s : Moment} (hclock : m.clock = s.clock) :
    s.Reaches day x := by
  cases h with
  | arrived hday hc => exact .arrived hday (hc.trans hclock)
  | refused hbad hkind hcode => exact .refused hbad hkind hcode

/-- Two movements one after the other are one, where the second cannot come back from outside. -/
lemma bind {stop : Int} {f : Moment → Outcome Moment} (hx : m.Reaches day x)
    (hf : ∀ r : Moment, r.dayNumber = day → r.Reaches stop (f r))
    (hout : ¬Representable day → ¬Representable stop) : m.Reaches stop (x >>= f) := by
  cases hx with
  | @arrived r hday hclock => exact (hf r hday).congr_clock hclock
  | refused hbad hkind hcode => exact .refused (hout hbad) hkind hcode

end Reaches

end Moment

/-! ## Walking the calendar -/

/-- One date is reached from another by walking the calendar that many dates, forwards, or from the
other one backwards. -/
def Date.Walk (d e : Date) (days : Int) : Prop :=
  (0 ≤ days → e.toYearMonthDay = YearMonthDay.successor^[days.toNat] d.toYearMonthDay) ∧
    (days ≤ 0 → d.toYearMonthDay = YearMonthDay.successor^[(-days).toNat] e.toYearMonthDay)

lemma Date.walk_of_dayNumber {d e : Date} {days : Int} (h : e.dayNumber = d.dayNumber + days) :
    d.Walk e days := by
  constructor
  · intro hforward
    exact eq_iterate_successor (by rw [Int.toNat_of_nonneg hforward]; exact h)
  · intro hbackward
    exact eq_iterate_successor (by rw [Int.toNat_of_nonneg (by omega)]; omega)

/-! ## The calls -/

namespace Call

variable (m : Moment)

lemma dayNumberOf_moment : dayNumberOf (.moment m) = .ok m.dayNumber := rfl

lemma shiftDays_eq (days : Numeral) :
    shiftDays (.moment m) (.number days) = liftM (m.shift days.value) := by
  rw [shiftDays, Value.requireInt_number, ok_bind, Value.requireDate_moment, ok_bind]

lemma shiftDays_reaches {days : Numeral} (hdays : days.Writable) :
    m.Reaches (m.dayNumber + days.value) (shiftDays (.moment m) (.number days)) := by
  rw [shiftDays_eq]
  exact m.reaches_shift hdays

lemma shiftDays_eq_ok_iff {days : Numeral} {r : Moment} :
    shiftDays (.moment m) (.number days) = .ok r ↔
      r.dayNumber = m.dayNumber + days.value ∧ r.clock = m.clock := by
  rw [shiftDays_eq, liftM_eq_ok_iff, Moment.shift_eq_ok_iff]

lemma exists_shiftDays_iff {days : Numeral} :
    (∃ r, shiftDays (.moment m) (.number days) = .ok r) ↔
      Representable (m.dayNumber + days.value) := by
  simp only [shiftDays_eq_ok_iff]
  constructor
  · rintro ⟨r, hday, -⟩
    rw [← hday]
    exact r.representable_dayNumber
  · intro hday
    exact ⟨m.withDate (.ofDay _ hday), Date.dayNumber_ofDay _ hday, rfl⟩

lemma moveToDayNumber_reaches (day : Numeral) (h : Representable day.value) :
    m.Reaches day.value (moveToDayNumber (.moment m) (.number day)) := by
  have hdays : (day.value - m.dayNumber).natAbs < 10 ^ 8 := by
    have hfirst := m.representable_dayNumber
    simp only [Representable, minDay, maxDay] at h hfirst
    omega
  have hmove := m.reaches_shift_of_natAbs_lt hdays
  rw [add_sub_cancel] at hmove
  rw [moveToDayNumber, Value.requireDayNumber_number, checkDayNumber_eq_ok_iff.2 ⟨h, rfl⟩, liftM_ok,
    ok_bind, Value.requireDate_moment, ok_bind]
  exact hmove

end Call

/-- The laws of moving a moment by whole days; `n` is its day number. -/
structure Moment.ShiftsExactly (m : Moment) (n : Int) : Prop where
  /-- A movement fails exactly when it leaves the representable days. -/
  refused_iff : ∀ days : Numeral,
    (∃ f, Call.shiftDays (.moment m) (.number days) = .error f) ↔
      ¬(0 ≤ n + days.value ∧ n + days.value ≤ 3652058)
  /-- The failure is reported as such where the number of days can be put into words. -/
  reported : ∀ (days : Numeral) (f : Fault), days.Writable →
    Call.shiftDays (.moment m) (.number days) = .error f →
      f.kind = .range ∧ f.code? = some .resultOutOfRange
  /-- A longer number of days fails for want of words, as a plain error without a code. -/
  unworded : ∀ days : Numeral, ¬days.Writable →
    Call.shiftDays (.moment m) (.number days) = .error (.wording .tooManyDigits)
  /-- Otherwise it leads to the day that many days on, with the clock unchanged. -/
  answered : ∀ days : Numeral, 0 ≤ n + days.value ∧ n + days.value ≤ 3652058 →
    ∃ r, Call.shiftDays (.moment m) (.number days) = .ok r ∧
      Call.dayNumberOf (.moment r) = .ok (n + days.value) ∧ r.clock = m.clock
  /-- The date that is found is the one that the calendar, walked date by date, leads to; no walk is
  longer than the calendar. -/
  walked : ∀ (days : Numeral) (r : Moment),
    Call.shiftDays (.moment m) (.number days) = .ok r →
      m.date.Walk r.date days.value ∧ days.value.natAbs ≤ 3652058
  /-- Moving twice is moving by the sum, as long as the first movement stays inside: the two lead to
  one moment, or neither leads anywhere. -/
  shift_shift : ∀ (a b : Numeral) (r : Moment),
    Call.shiftDays (.moment m) (.number a) = .ok r →
      ∀ s, Call.shiftDays (.moment r) (.number b) = .ok s ↔
        Call.shiftDays (.moment m) (.int (a.value + b.value)) = .ok s
  /-- Every representable day can be moved to, and the way back leads to the moment itself. -/
  moved_back : ∀ day : Numeral, 0 ≤ day.value → day.value ≤ 3652058 →
    ∃ r, Call.moveToDayNumber (.moment m) (.number day) = .ok r ∧
      Call.dayNumberOf (.moment r) = .ok day.value ∧ r.clock = m.clock ∧
      Call.moveToDayNumber (.moment r) (.int n) = .ok m

/-- **Moving by whole days is addition on the line of days**, confined to the representable days.
It fails exactly when it leaves them, however far it leads; otherwise it walks the calendar that many
dates and keeps the clock.  Two movements add up, and a moment that is moved to a day can be moved
back.  A failure has its code as long as the number of days has at most 4300 digits. -/
theorem shiftDays_exact (m : Moment) :
    ∃ n, Call.dayNumberOf (.moment m) = .ok n ∧ m.ShiftsExactly n := by
  refine ⟨_, Call.dayNumberOf_moment m, ?_⟩
  have hfirst := m.representable_dayNumber
  constructor
  case refused_iff =>
    intro days
    refine Iff.trans ?_ (not_congr (Call.exists_shiftDays_iff m))
    cases Call.shiftDays (.moment m) (.number days) with
    | ok r => simp
    | error f => simp
  case reported =>
    intro days f hdays hf
    exact (Call.shiftDays_reaches m hdays).refusal hf
  case unworded =>
    intro days hdays
    rw [Call.shiftDays_eq]
    exact m.shift_eq_wording hdays
  case answered =>
    intro days hday
    obtain ⟨r, hr⟩ := (Call.exists_shiftDays_iff m).2 hday
    obtain ⟨hrday, hclock⟩ := (Call.shiftDays_eq_ok_iff m).1 hr
    exact ⟨r, hr, by rw [Call.dayNumberOf_moment, hrday], hclock⟩
  case walked =>
    intro days r hr
    obtain ⟨hday, -⟩ := (Call.shiftDays_eq_ok_iff m).1 hr
    have hlast := r.representable_dayNumber
    refine ⟨Date.walk_of_dayNumber hday, ?_⟩
    -- both ends are representable, so no more than the whole calendar lies between them
    simp only [Representable, minDay, maxDay] at hfirst hlast
    omega
  case shift_shift =>
    intro a b r hr s
    obtain ⟨hday, hclock⟩ := (Call.shiftDays_eq_ok_iff m).1 hr
    -- the second movement starts where the first one arrived, so both aim at one day
    rw [Value.int, Call.shiftDays_eq_ok_iff, Call.shiftDays_eq_ok_iff, hday, hclock,
      Numeral.value_plain, Int.add_assoc]
  case moved_back =>
    intro day hlow hhigh
    have hreaches := Call.moveToDayNumber_reaches m day ⟨hlow, hhigh⟩
    obtain ⟨r, hr⟩ := hreaches.exists_ok_iff.2 ⟨hlow, hhigh⟩
    obtain ⟨hday, hclock⟩ := hreaches.eq_ok_iff.1 hr
    have hback := Call.moveToDayNumber_reaches r (.plain m.dayNumber) hfirst
    exact ⟨r, hr, by rw [Call.dayNumberOf_moment, hday], hclock,
      hback.eq_ok_iff.2 ⟨rfl, hclock.symm⟩⟩

/-- The last minute of 28 February 2024, east of universal time. -/
def Moment.lateFebruary : Moment where
  date := { year := 2024, month := 2, day := 28, valid := by decide }
  clock := some { microsecond := 86340000000, offset := some 19800000000 }

/-- Two days lead over the leap day and back; a distance longer than the calendar is refused. -/
theorem shiftDays_exact_lateFebruary :
    (∃ r, Call.shiftDays (.moment .lateFebruary) (.int 2) = .ok r ∧
      Call.dayNumberOf (.moment r) = .ok 738945 ∧ r.clock = Moment.lateFebruary.clock ∧
      Call.moveToDayNumber (.moment r) (.int 738943) = .ok .lateFebruary) ∧
    ∃ f, Call.shiftDays (.moment .lateFebruary) (.int (-1000000000000000000000)) = .error f ∧
      f.kind = .range ∧ f.code? = some .resultOutOfRange := by
  obtain ⟨n, hn, hshifts⟩ := shiftDays_exact .lateFebruary
  obtain rfl : n = 738943 := (Except.ok.inj hn).symm
  obtain ⟨r, hr, hday, hclock⟩ := hshifts.answered (.plain 2) (by decide)
  obtain ⟨s, -, hsame, hkept, hback⟩ := hshifts.moved_back (.plain 738945) (by decide) (by decide)
  obtain rfl : s = r :=
    Moment.eq_of_dayNumber_eq (Except.ok.inj (hsame.trans hday.symm)) (hkept.trans hclock.symm)
  obtain ⟨f, hf⟩ := (hshifts.refused_iff (.plain (-1000000000000000000000))).2 (by decide)
  exact ⟨⟨s, hr, hday, hclock, hback⟩, f, hf, hshifts.reported _ f (by decide) hf⟩

/-- A number of days of 4301 digits leads from 28 February 2024 to no date, but that is not what is
reported: the failure is a plain error of a value. -/
theorem shiftDays_overlong :
    ¬Representable (Moment.lateFebruary.date.dayNumber + 10 ^ 4300) ∧
      ∃ f, Call.shiftDays (.date Moment.lateFebruary.date) (.int (10 ^ 4300)) = .error f ∧
        f.kind = .value ∧ f.code? = none := by
  have hdays : ¬(Numeral.plain (10 ^ 4300)).Writable := Numeral.not_writable_pow
  refine ⟨(Moment.ofDate Moment.lateFebruary.date).not_representable_add hdays,
    .wording .tooManyDigits, ?_, rfl, rfl⟩
  rw [Value.date, Value.int, Call.shiftDays_eq]
  exact (Moment.ofDate Moment.lateFebruary.date).shift_eq_wording hdays

end BusinessCalendar
