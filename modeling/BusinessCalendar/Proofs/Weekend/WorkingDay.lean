import BusinessCalendar.Proofs.Moment.Search

/-!
# Stepping to a working day

A weekend classifies the seven weekdays, so whether a day is a working day depends on its number
modulo 7, and a walk in one direction has seen all weekdays after seven days.  The search for a
working day therefore finds the **least** number of days after which a walk is at one, among all
numbers and not only among the seven that it looks at (`Weekend.distance?_eq_some_iff`), and it finds
one unless the weekend takes up the whole week (`Weekend.exists_distance?_iff`).

* `Weekend.workingSteps` — after how many steps a walk is at a working day.
* `Classifies` — the weekend that a definition and a provider come down to.
* **`workingDays_nearest`** — the calls, forwards and backwards, and how they undo each other.
-/

namespace BusinessCalendar

/-- The first match in an ascending list is the least one. -/
lemma find?_eq_some_iff_isLeast {p : Int → Bool} {ks : List Int} (h : ks.Pairwise (· < ·))
    {k : Int} : ks.find? p = some k ↔ IsLeast {j | j ∈ ks ∧ p j = true} k := by
  induction ks with
  | nil => simp [IsLeast]
  | cons a ks ih =>
    obtain ⟨hfirst, hrest⟩ := List.pairwise_cons.1 h
    cases ha : p a with
    | true =>
      have hleast : IsLeast {j | j ∈ a :: ks ∧ p j = true} a := by
        refine ⟨⟨List.mem_cons_self, ha⟩, ?_⟩
        rintro j ⟨hj, -⟩
        rcases List.mem_cons.1 hj with rfl | hj
        · exact Int.le_refl j
        · exact Int.le_of_lt (hfirst j hj)
      rw [List.find?_cons_of_pos ha, Option.some.injEq]
      constructor
      · rintro rfl
        exact hleast
      · exact hleast.unique
    | false =>
      have hsame : {j | j ∈ a :: ks ∧ p j = true} = {j | j ∈ ks ∧ p j = true} := by
        ext j
        simp only [List.mem_cons, Set.mem_ofPred_eq]
        refine and_congr_left fun hj => or_iff_right ?_
        rintro rfl
        rw [ha] at hj
        cases hj
      rw [List.find?_cons_of_neg (by rw [ha]; exact Bool.false_ne_true), ih hrest, hsame]

/-! ## The search -/

namespace Weekend

variable (weekend : Weekend) (n step : Int)

/-- The numbers of steps, from one on, after which a walk from a day is at a working day. -/
def workingSteps : Set Int := {k | 1 ≤ k ∧ weekend (Weekday.onDay (n + step * k)) = false}

variable {weekend n step}

/-- After seven steps a walk is back at the same weekday. -/
lemma onDay_sub_seven (k : Int) :
    Weekday.onDay (n + step * (k - 7)) = Weekday.onDay (n + step * k) := by
  rw [Weekday.onDay_eq_onDay_iff, Int.mul_sub]
  omega

/-- **The search finds the least number of steps to a working day.**  It looks at no more than seven,
and a larger number would not be the least: seven steps before it is a working day as well. -/
theorem distance?_eq_some_iff {k : Int} :
    weekend.distance? n step = some k ↔ IsLeast (weekend.workingSteps n step) k := by
  have hlooked : ∀ j : Int, j ∈ ([1, 2, 3, 4, 5, 6, 7] : List Int) ↔ 1 ≤ j ∧ j ≤ 7 := by
    intro j
    simp only [List.mem_cons, List.not_mem_nil, or_false]
    omega
  rw [distance?, find?_eq_some_iff_isLeast (by decide)]
  simp only [hlooked, Bool.not_eq_true']
  constructor
  · rintro ⟨⟨⟨hlow, hhigh⟩, hworking⟩, hleast⟩
    refine ⟨⟨hlow, hworking⟩, ?_⟩
    rintro j ⟨hj, hjworking⟩
    by_cases hseven : j ≤ 7
    · exact hleast ⟨⟨hj, hseven⟩, hjworking⟩
    · omega
  · rintro ⟨⟨hlow, hworking⟩, hleast⟩
    have hhigh : k ≤ 7 := by
      by_contra hlate
      have hearlier := hleast (a := k - 7) ⟨by omega, by rwa [onDay_sub_seven]⟩
      omega
    exact ⟨⟨⟨hlow, hhigh⟩, hworking⟩, fun j hj => hleast ⟨hj.1.1, hj.2⟩⟩

lemma distance?_le_seven {k : Int} (h : weekend.distance? n step = some k) : k ≤ 7 := by
  have hmem := List.mem_of_find?_eq_some h
  simp only [List.mem_cons, List.not_mem_nil, or_false] at hmem
  omega

/-- Each weekday comes within seven days, in either direction. -/
lemma exists_onDay_step (hstep : step = 1 ∨ step = -1) (w : Weekday) :
    ∃ k, (1 ≤ k ∧ k ≤ 7) ∧ Weekday.onDay (n + step * k) = w := by
  rcases hstep with rfl | rfl
  · have hbounds := w.weekStart_bounds (n + 7)
    refine ⟨w.weekStart (n + 7) - n, by omega, ?_⟩
    rw [Int.one_mul, add_sub_cancel]
    exact w.onDay_weekStart _
  · have hbounds := w.weekStart_bounds (n - 1)
    refine ⟨n - w.weekStart (n - 1), by omega, ?_⟩
    rw [show n + -1 * (n - w.weekStart (n - 1)) = w.weekStart (n - 1) by omega]
    exact w.onDay_weekStart _

/-- There is a working day to step to exactly when there is one in the week. -/
lemma exists_distance?_iff (hstep : step = 1 ∨ step = -1) :
    (∃ k, weekend.distance? n step = some k) ↔ ∃ w, weekend w = false := by
  constructor
  · rintro ⟨k, hk⟩
    exact ⟨_, (distance?_eq_some_iff.1 hk).1.2⟩
  · rintro ⟨w, hw⟩
    obtain ⟨k, ⟨hlow, hhigh⟩, hday⟩ := exists_onDay_step (n := n) hstep w
    rw [← Option.isSome_iff_exists, distance?, List.find?_isSome]
    refine ⟨k, ?_, by rw [hday, hw]; rfl⟩
    simp only [List.mem_cons, List.not_mem_nil, or_false]
    omega

/-- From where a walk stops, the walk back stops at the working day that it started from: there is
none between the two. -/
lemma distance?_back {k : Int} (h : weekend.distance? n step = some k)
    (hworking : weekend (Weekday.onDay n) = false) :
    weekend.distance? (n + step * k) (-step) = some k := by
  obtain ⟨⟨hlow, -⟩, hleast⟩ := distance?_eq_some_iff.1 h
  have hback : ∀ j, n + step * k + -step * j = n + step * (k - j) := by
    intro j
    ring
  rw [distance?_eq_some_iff]
  refine ⟨⟨hlow, ?_⟩, ?_⟩
  · rw [hback, Int.sub_self, Int.mul_zero, Int.add_zero]
    exact hworking
  · rintro j ⟨hj, hjworking⟩
    by_contra hearly
    rw [hback] at hjworking
    have hsooner := hleast (a := k - j) ⟨by omega, hjworking⟩
    omega

end Weekend

/-! ## On moments -/

namespace Moment

variable {m : Moment} {weekend : Weekend} {step : Int} {definition : String}

lemma stepToWorkingDay_eq_shift {k : Int} (h : weekend.distance? m.dayNumber step = some k) :
    m.stepToWorkingDay step weekend definition = m.shift (step * k) := by
  simp only [stepToWorkingDay, h]

lemma stepToWorkingDay_eq_error (hstep : step = 1 ∨ step = -1) (h : ∀ w, weekend w = true) :
    m.stepToWorkingDay step weekend definition = .error (.noWorkingDays definition) := by
  have hnone : weekend.distance? m.dayNumber step = none := by
    rw [Option.eq_none_iff_forall_ne_some]
    intro k hk
    obtain ⟨w, hw⟩ := (Weekend.exists_distance?_iff hstep).1 ⟨k, hk⟩
    rw [h w] at hw
    cases hw
  simp only [stepToWorkingDay, hnone]

end Moment

/-! ## The calls -/

/-- The weekend that a definition and a provider come down to.  A built-in definition names its days
and leaves the provider alone; the custom one asks the provider about each weekday and reduces what
it answers to a yes or a no. -/
inductive Classifies : Value → Value → Weekend → Prop
  | builtin {d : WeekendDefinition} {days : List Weekday} (h : d.days? = some days)
      (provider : Value) : Classifies (.weekendDefinition d) provider (Weekend.ofDays days)
  | days (w : Weekend) : Classifies (.weekendDefinition .custom) (.weekendDays w) w
  | provider (p : WeekendMethods Value) (identity : Nat) :
      Classifies (.weekendDefinition .custom) (.weekendProvider p identity)
        fun w => (p.isWeekend w).truthy

lemma WeekendDefinition.days?_eq_none_iff {d : WeekendDefinition} : d.days? = none ↔ d = .custom := by
  cases d <;> decide

namespace Call

variable {definition provider : Value} {weekend : Weekend}

/-- Nothing else is a weekend. -/
lemma weekendOf_eq_ok_iff {function : String} :
    weekendOf function definition provider = .ok weekend ↔
      Classifies definition provider weekend := by
  constructor
  · intro h
    cases definition with
    | weekendDefinition d =>
      cases hd : d.days? with
      | some days =>
        simp only [weekendOf, hd, Except.ok.injEq] at h
        rw [← h]
        exact .builtin hd provider
      | none =>
        obtain rfl := WeekendDefinition.days?_eq_none_iff.1 hd
        cases provider with
        | weekendDays w =>
          obtain rfl : w = weekend := by simpa [weekendOf, providedWeekend?, hd] using h
          exact .days w
        | weekendProvider p identity =>
          obtain rfl := by simpa [weekendOf, providedWeekend?, hd] using h
          exact .provider p identity
        | _ => simp [weekendOf, providedWeekend?, hd, raise] at h
    | _ => simp [weekendOf] at h
  · intro h
    cases h with
    | builtin hd _ => simp only [weekendOf, hd]
    | days w => rfl
    | provider p identity => rfl

variable (h : Classifies definition provider weekend)
include h

lemma isWeekendDate_moment (m : Moment) :
    isWeekendDate (.moment m) definition provider = .ok (weekend m.date.weekday) := by
  rw [isWeekendDate, Value.requireDate_moment, ok_bind, weekendOf_eq_ok_iff.2 h, ok_bind, pure_eq_ok]

lemma stepToWorkingDay_moment (function : String) (step : Int) (m : Moment) :
    stepToWorkingDay function step (.moment m) definition provider =
      liftM (m.stepToWorkingDay step weekend (definition.text?.getD "")) := by
  rw [stepToWorkingDay, weekendOf_eq_ok_iff.2 h, ok_bind, Value.requireDate_moment, ok_bind]

end Call

/-- The laws of stepping from a moment to the nearest working day under a weekend, in steps of
`step`; `back` steps the other way. -/
structure Moment.StepsToWorkingDay (m : Moment) (weekend : Weekend) (step : Int)
    (forth back : Moment → Outcome Moment) : Prop where
  /-- A weekend that takes up the whole week is reported as such, wherever the moment is. -/
  no_working_day : (∀ w, weekend w = true) →
    ∃ f, forth m = .error f ∧ f.kind = .range ∧ f.code? = some .noWorkingDays
  /-- Otherwise the moment is moved by the least number of days that leads to a working day, which is
  at most a week, and refused exactly when that day is not representable. -/
  nearest : (∃ w, weekend w = false) →
    ∃ k, IsLeast {k | 1 ≤ k ∧ weekend (Weekday.onDay (m.dayNumber + step * k)) = false} k ∧ k ≤ 7 ∧
      m.Reaches (m.dayNumber + step * k) (forth m) ∧
      forth m = Call.shiftDays (.moment m) (.int (step * k))
  /-- From a working day, a step forth and a step back cancel. -/
  back_forth : weekend m.date.weekday = false → ∀ r, forth m = .ok r → back r = .ok m

/-- The laws hold of both directions alike. -/
lemma Moment.stepsToWorkingDay {definition provider : Value} {weekend : Weekend}
    (h : Classifies definition provider weekend) (m : Moment) {step : Int}
    (hstep : step = 1 ∨ step = -1) (forth back : String) :
    m.StepsToWorkingDay weekend step
      (fun v => Call.stepToWorkingDay forth step (.moment v) definition provider)
      (fun v => Call.stepToWorkingDay back (-step) (.moment v) definition provider) where
  no_working_day hall := by
    -- the report names no quantity
    have hcause : Cause.Writable (.noWorkingDays (definition.text?.getD "")) := List.forall_mem_nil _
    refine ⟨.cause (.noWorkingDays (definition.text?.getD "")), ?_, rfl, Fault.code?_cause _⟩
    rw [Call.stepToWorkingDay_moment h, stepToWorkingDay_eq_error hstep hall, liftM_error,
      Cause.fault_eq hcause]
  nearest hsome := by
    obtain ⟨k, hk⟩ := (Weekend.exists_distance?_iff (n := m.dayNumber) hstep).2 hsome
    have hforth : Call.stepToWorkingDay forth step (.moment m) definition provider =
        liftM (m.shift (step * k)) := by
      rw [Call.stepToWorkingDay_moment h, stepToWorkingDay_eq_shift hk]
    refine ⟨k, Weekend.distance?_eq_some_iff.1 hk, Weekend.distance?_le_seven hk, ?_, ?_⟩
    · have hpositive := (Weekend.distance?_eq_some_iff.1 hk).1.1
      have hweek := Weekend.distance?_le_seven hk
      rw [hforth]
      refine m.reaches_shift_of_natAbs_lt ?_
      rcases hstep with rfl | rfl <;> omega
    · rw [hforth, Value.int, Call.shiftDays_eq, Numeral.value_plain]
  back_forth hworking r hr := by
    obtain ⟨k, hk⟩ := (Weekend.exists_distance?_iff (n := m.dayNumber) hstep).2 ⟨_, hworking⟩
    rw [Call.stepToWorkingDay_moment h, stepToWorkingDay_eq_shift hk, liftM_eq_ok_iff,
      shift_eq_ok_iff] at hr
    obtain ⟨hday, hclock⟩ := hr
    have hreturn := Weekend.distance?_back hk hworking
    rw [← hday] at hreturn
    rw [Call.stepToWorkingDay_moment h, stepToWorkingDay_eq_shift hreturn, liftM_eq_ok_iff,
      shift_eq_ok_iff, hday]
    exact ⟨by ring, hclock.symm⟩

/-- **A step leads to the nearest working day.**  Under every classification of the weekdays, built
in or provided, a moment is moved to the nearest working day after it, or before it, with its clock;
what has no working day at all is told apart from what has none that is representable.  From a
working day the two directions undo each other. -/
theorem workingDays_nearest {definition provider : Value} {weekend : Weekend}
    (h : Classifies definition provider weekend) (m : Moment) :
    Call.isWeekendDate (.moment m) definition provider = .ok (weekend m.date.weekday) ∧
      m.StepsToWorkingDay weekend 1
        (fun v => Call.nextWorkingDay (.moment v) definition provider)
        (fun v => Call.previousWorkingDay (.moment v) definition provider) ∧
      m.StepsToWorkingDay weekend (-1)
        (fun v => Call.previousWorkingDay (.moment v) definition provider)
        (fun v => Call.nextWorkingDay (.moment v) definition provider) :=
  ⟨Call.isWeekendDate_moment h m, m.stepsToWorkingDay h (.inl rfl) _ _,
    m.stepsToWorkingDay h (.inr rfl) _ _⟩

/-- A provider that answers with the number of a weekday: only Monday, with zero, is a working
day. -/
def WeekendMethods.indices : WeekendMethods Value where
  kindName := "Indices"
  isWeekend w := .int w.index

/-- With one working day in the week, the next one after the first date is a week later and leads
back to it; the one before it is no date. -/
theorem workingDays_nearest_newYear1 :
    Classifies (.weekendDefinition .custom) (.weekendProvider .indices 0)
        (fun w => (Value.int w.index).truthy) ∧
      (∃ r, Call.nextWorkingDay (.date .newYear1) (.weekendDefinition .custom)
          (.weekendProvider .indices 0) = .ok r ∧ r.dayNumber = 7 ∧
        Call.previousWorkingDay (.moment r) (.weekendDefinition .custom)
          (.weekendProvider .indices 0) = .ok (.ofDate .newYear1)) ∧
      ∃ f, Call.previousWorkingDay (.date .newYear1) (.weekendDefinition .custom)
          (.weekendProvider .indices 0) = .error f ∧ f.code? = some .resultOutOfRange := by
  have h : Classifies (.weekendDefinition .custom) (.weekendProvider .indices 0)
      (fun w => (Value.int w.index).truthy) := .provider .indices 0
  obtain ⟨-, hnext, hprevious⟩ := workingDays_nearest h (.ofDate .newYear1)
  have hmonday : ∃ w : Weekday, (Value.int w.index).truthy = false := ⟨.monday, by decide⟩
  have hfirst : (Moment.ofDate .newYear1).dayNumber = 0 := by decide
  refine ⟨h, ?_, ?_⟩
  · obtain ⟨k, ⟨⟨hlow, hworking⟩, -⟩, hhigh, hreaches, -⟩ := hnext.nearest hmonday
    have hindex : (0 + 1 * k) % 7 = 0 := by
      simpa [Value.int, Value.truthy, hfirst] using hworking
    obtain rfl : k = 7 := by omega
    obtain ⟨r, hr⟩ := hreaches.exists_ok_iff.2 (by decide)
    exact ⟨r, hr, (hreaches.eq_ok_iff.1 hr).1, hnext.back_forth (by decide) r hr⟩
  · obtain ⟨k, ⟨⟨hlow, -⟩, -⟩, -, hreaches, -⟩ := hprevious.nearest hmonday
    have hbefore : ¬Representable ((Moment.ofDate .newYear1).dayNumber + -1 * k) := by
      rw [hfirst]
      exact fun hday => absurd hday.1 (by simp only [minDay]; omega)
    obtain ⟨f, hf⟩ := hreaches.exists_error_iff.2 hbefore
    exact ⟨f, hf, (hreaches.refusal hf).2⟩

end BusinessCalendar
