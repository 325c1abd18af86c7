import BusinessCalendar.Call.FiscalYear
import BusinessCalendar.Call.Quarter
import BusinessCalendar.Call.Week
import BusinessCalendar.Call.Weekend
import BusinessCalendar.Proofs.Outcome

/-!
# The clock rides along

A date with a time of day goes through every operation as its plain date does.  What moves a date
moves it by a distance that is found from its day alone, so **the answer has the day that the plain
date leads to and the clock that came in** (`clock_rides_along`); what only looks at a date does not
see the clock at all.

* `Agree` — two outcomes side by side: related answers, or failures of one kind and one code.  The
  words of a failure may quote the clock, so failures are not compared as a whole.
* `Moment.MovesByDay` — the operations that look at nothing but the day; **`MovesByDay.agree`** is
  the one place where a clock is followed.
* `Carried`, `Unread` — a call on a date with a time of day against the same call on the plain date.
-/

namespace BusinessCalendar

/-! ## Two outcomes side by side -/

/-- Two outcomes that are related answers, or failures of the same kind under the same code. -/
inductive Agree {α β : Type} (r : α → β → Prop) : Outcome α → Outcome β → Prop
  | ok {a : α} {b : β} (h : r a b) : Agree r (.ok a) (.ok b)
  | error {e f : Fault} (hkind : e.kind = f.kind) (hcode : e.code? = f.code?) :
    Agree r (.error e) (.error f)

namespace Agree

variable {α β γ : Type} {r : α → β → Prop}

lemma refl (x : Outcome α) : Agree Eq x x := by
  cases x with
  | ok a => exact .ok rfl
  | error e => exact .error rfl rfl

/-- A step taken on both sides alike. -/
lemma bind (x : Outcome γ) {f : γ → Outcome α} {g : γ → Outcome β}
    (h : ∀ c, Agree r (f c) (g c)) : Agree r (x >>= f) (x >>= g) := by
  cases x with
  | ok c => exact h c
  | error e => exact .error rfl rfl

/-- Causes of the same kind and code with the same numbers are raised alike: whether there are words
for them depends on the numbers. -/
lemma cause {c d : Cause} (hkind : c.kind = d.kind) (hcode : c.code = d.code)
    (hquantities : c.quantities = d.quantities) : Agree r (.error c.fault) (.error d.fault) := by
  by_cases hc : c.Writable
  · have hd : d.Writable := by rwa [Cause.Writable, ← hquantities]
    rw [Cause.fault_eq hc, Cause.fault_eq hd]
    refine .error hkind ?_
    rw [Fault.code?_cause, Fault.code?_cause, hcode]
  · have hd : ¬d.Writable := by rwa [Cause.Writable, ← hquantities]
    rw [Cause.fault_eq_wording hc, Cause.fault_eq_wording hd]
    exact .error rfl rfl

end Agree

/-! ## Movements -/

namespace Moment

/-- The movement of a moment and that of its plain date lead to the same day, one with the clock of
the moment and one without. -/
def Carries (m r d : Moment) : Prop := r.date = d.date ∧ r.clock = m.clock ∧ d.clock = none

/-- A movement by a distance that is found from the day alone. -/
def MovesByDay (move : Moment → Except Cause Moment) : Prop :=
  ∃ distance : Int → Except Cause Int, ∀ m, move m = distance m.dayNumber >>= m.shift

lemma shift_agree (m : Moment) (days : Int) :
    Agree m.Carries (liftM (m.shift days)) (liftM ((ofDate m.date).shift days)) := by
  rw [shift, shift]
  by_cases h : Representable (m.dayNumber + days)
  · have hdate : Representable ((ofDate m.date).dayNumber + days) := h
    rw [dif_pos h, dif_pos hdate]
    exact .ok ⟨rfl, rfl, rfl⟩
  · have hdate : ¬Representable ((ofDate m.date).dayNumber + days) := h
    rw [dif_neg h, dif_neg hdate]
    exact .cause rfl rfl rfl

/-- **A movement that looks at nothing but the day carries the clock along.** -/
theorem MovesByDay.agree {move : Moment → Except Cause Moment} (h : MovesByDay move) (m : Moment) :
    Agree m.Carries (liftM (move m)) (liftM (move (ofDate m.date))) := by
  obtain ⟨distance, hmove⟩ := h
  have hday : (ofDate m.date).dayNumber = m.dayNumber := rfl
  rw [hmove, hmove, hday]
  cases distance m.dayNumber with
  | ok days => exact m.shift_agree days
  | error c => exact .cause rfl rfl rfl

lemma movesByDay_of_shift {move : Moment → Except Cause Moment} (distance : Int → Int)
    (h : ∀ m, move m = m.shift (distance m.dayNumber)) : MovesByDay move :=
  ⟨fun n => .ok (distance n), h⟩

lemma movesByDay_shift (days : Int) : MovesByDay (·.shift days) :=
  movesByDay_of_shift (fun _ => days) fun _ => rfl

lemma movesByDay_moveTo (day : Int) : MovesByDay (·.moveTo day) :=
  movesByDay_of_shift (fun n => day - n) fun _ => rfl

lemma movesByDay_onOrAfter (w : Weekday) : MovesByDay (·.onOrAfter w) :=
  movesByDay_of_shift w.daysForward fun _ => rfl

lemma movesByDay_onOrBefore (w : Weekday) : MovesByDay (·.onOrBefore w) :=
  movesByDay_of_shift (fun n => -w.daysBackward n) fun _ => rfl

lemma movesByDay_strictlyAfter (w : Weekday) : MovesByDay (·.strictlyAfter w) :=
  movesByDay_of_shift (fun n => Weekday.orFullWeek (w.daysForward n)) fun _ => rfl

lemma movesByDay_strictlyBefore (w : Weekday) : MovesByDay (·.strictlyBefore w) :=
  movesByDay_of_shift (fun n => -Weekday.orFullWeek (w.daysBackward n)) fun _ => rfl

lemma movesByDay_nearest (w : Weekday) : MovesByDay (·.nearest w) := by
  refine movesByDay_of_shift
    (fun n => if w.daysBackward n ≤ w.daysForward n then -w.daysBackward n else w.daysForward n)
    fun m => ?_
  rw [nearest]
  split <;> rfl

lemma movesByDay_stepToWorkingDay (step : Int) (weekend : Weekend) (definition : String) :
    MovesByDay (·.stepToWorkingDay step weekend definition) := by
  refine ⟨fun n => (weekend.distance? n step).elim (.error (.noWorkingDays definition))
    fun k => .ok (step * k), fun m => ?_⟩
  simp only [stepToWorkingDay]
  cases weekend.distance? m.dayNumber step with
  | some k => rfl
  | none => rfl

end Moment

/-! ## Occurrences between two dates -/

/-- The words of a missing occurrence quote the ends of the period; nothing else depends on more
than their days. -/
lemma Date.nthBetween_agree {a b a' b' : Moment} (ha : a.dayNumber = a'.dayNumber)
    (hb : b.dayNumber = b'.dayNumber) (w : Weekday) (k : Numeral) :
    Agree Eq (liftM (nthBetween a b w k)) (liftM (nthBetween a' b' w k)) := by
  simp only [nthBetween, occurrenceBetween, ha, hb]
  split
  · exact .refl _
  · exact .cause rfl rfl rfl

/-! ## Calls on a date with a time of day -/

/-- The call on a moment goes as the call on its plain date, and its answer carries the clock. -/
def Carried (call : Value → Outcome Moment) (m : Moment) : Prop :=
  Agree m.Carries (call (.moment m)) (call (.date m.date))

/-- The call on a moment is the call on its plain date. -/
def Unread {α : Type} (call : Value → Outcome α) (m : Moment) : Prop :=
  call (.moment m) = call (.date m.date)

/-- The call on a moment has the answer of the call on its plain date; only the words of a failure
may differ. -/
def UnreadInAnswers {α : Type} (call : Value → Outcome α) (m : Moment) : Prop :=
  Agree Eq (call (.moment m)) (call (.date m.date))

/-- A call that looks at its other arguments, then at the date, and then moves it. -/
lemma carried_of_movesByDay {γ : Type} {move : γ → Moment → Except Cause Moment}
    (h : ∀ c, Moment.MovesByDay (move c)) (x : Outcome γ) (m : Moment) :
    Carried (fun value => do
      let c ← x
      let v ← value.requireDate "value"
      move c v) m :=
  .bind x fun c => (h c).agree m

/-- What holds of a moment in all operations that move a date or look at one. -/
structure Moment.ClockRidesAlong (m : Moment) : Prop where
  shiftDays : ∀ days, Carried (Call.shiftDays · days) m
  moveToDayNumber : ∀ day, Carried (Call.moveToDayNumber · day) m
  nextOnOrAfter : ∀ weekday, Carried (Call.nextOnOrAfter · weekday) m
  previousOnOrBefore : ∀ weekday, Carried (Call.previousOnOrBefore · weekday) m
  strictlyNext : ∀ weekday, Carried (Call.strictlyNext · weekday) m
  strictlyPrevious : ∀ weekday, Carried (Call.strictlyPrevious · weekday) m
  nearest : ∀ weekday, Carried (Call.nearest · weekday) m
  firstDayOfWeek : ∀ firstWeekday, Carried (Call.firstDayOfWeek · firstWeekday) m
  lastDayOfWeek : ∀ firstWeekday, Carried (Call.lastDayOfWeek · firstWeekday) m
  nextWorkingDay : ∀ definition provider, Carried (Call.nextWorkingDay · definition provider) m
  previousWorkingDay :
    ∀ definition provider, Carried (Call.previousWorkingDay · definition provider) m
  resolveQuarter : ∀ definition, Unread (Call.resolveQuarter · definition) m
  quarterOf : ∀ definition, Unread (Call.quarterOf · definition) m
  isoWeekOf : Unread Call.isoWeekOf m
  weekOfYear : ∀ convention, Unread (Call.weekOfYear · convention) m
  weekOfMonth : ∀ firstWeekday, Unread (Call.weekOfMonth · firstWeekday) m
  isWeekendDate : ∀ definition provider, Unread (Call.isWeekendDate · definition provider) m
  fiscalWeek : ∀ y, Unread (Call.fiscalWeek y) m
  fiscalMonth : ∀ y, Unread (Call.fiscalMonth y) m
  fiscalQuarter : ∀ y, Unread (Call.fiscalQuarter y) m
  fiscalQuarterStart : ∀ y, Unread (Call.fiscalQuarterStart y) m
  fiscalQuarterStop : ∀ y, Unread (Call.fiscalQuarterStop y) m
  /-- A period that starts with a time of day. -/
  nthBetween_first : ∀ last weekday occurrence,
    UnreadInAnswers (Call.nthBetween · last weekday occurrence) m
  /-- A period that ends with a time of day. -/
  nthBetween_last : ∀ first weekday occurrence,
    UnreadInAnswers (Call.nthBetween first · weekday occurrence) m

/-- **The clock rides along and is never looked at.**  Whatever the other arguments are, an
operation that moves a date succeeds on a date with a time of day exactly when it does on the plain
date, with the same day and the clock unchanged, and fails with the same kind and code otherwise; an
operation that only looks at a date has the same answer. -/
theorem clock_rides_along (m : Moment) : m.ClockRidesAlong := by
  have hday : m.dayNumber = (Moment.ofDate m.date).dayNumber := rfl
  constructor
  case shiftDays =>
    intro days
    exact carried_of_movesByDay (fun k : Numeral => Moment.movesByDay_shift k.value) _ m
  case moveToDayNumber =>
    intro day
    exact carried_of_movesByDay Moment.movesByDay_moveTo _ m
  case nextOnOrAfter =>
    intro weekday
    exact carried_of_movesByDay Moment.movesByDay_onOrAfter _ m
  case previousOnOrBefore =>
    intro weekday
    exact carried_of_movesByDay Moment.movesByDay_onOrBefore _ m
  case strictlyNext =>
    intro weekday
    exact carried_of_movesByDay Moment.movesByDay_strictlyAfter _ m
  case strictlyPrevious =>
    intro weekday
    exact carried_of_movesByDay Moment.movesByDay_strictlyBefore _ m
  case nearest =>
    intro weekday
    exact carried_of_movesByDay Moment.movesByDay_nearest _ m
  case firstDayOfWeek =>
    intro firstWeekday
    exact carried_of_movesByDay Moment.movesByDay_onOrBefore _ m
  case lastDayOfWeek =>
    intro firstWeekday
    exact carried_of_movesByDay (fun w : Weekday => Moment.movesByDay_onOrAfter w.pred) _ m
  case nextWorkingDay =>
    intro definition provider
    exact carried_of_movesByDay (fun weekend => Moment.movesByDay_stepToWorkingDay 1 weekend _) _ m
  case previousWorkingDay =>
    intro definition provider
    exact carried_of_movesByDay
      (fun weekend => Moment.movesByDay_stepToWorkingDay (-1) weekend _) _ m
  case nthBetween_first =>
    intro last weekday occurrence
    refine .bind _ fun w => .bind _ fun k => ?_
    rw [Value.date, Value.requireDate_moment, Value.requireDate_moment, ok_bind, ok_bind]
    exact .bind _ fun b => Date.nthBetween_agree hday rfl w k
  case nthBetween_last =>
    intro first weekday occurrence
    refine .bind _ fun w => .bind _ fun k => .bind _ fun a => ?_
    rw [Value.date, Value.requireDate_moment, Value.requireDate_moment, ok_bind, ok_bind]
    exact Date.nthBetween_agree rfl hday w k
  -- the others take the date out of the moment before anything else
  all_goals
    intros
    rfl

end BusinessCalendar
