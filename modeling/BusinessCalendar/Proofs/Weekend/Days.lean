import BusinessCalendar.Proofs.Weekend.WorkingDay

/-!
# Weekends from lists of weekdays

A list of weekdays makes a weekend, and all that is left of the list is **the set of its days**
(`Call.weekendDays_eq_ok_iff`): neither their order, nor repetitions, nor whether a day was written as
a constant or as a number.  A built-in definition is such a set as well, so the two ways of saying
what a weekend is cannot be told apart by any call, their failures included.

* `weekdaysIn` — the days of a list.
* `SameWeekend` — two ways of giving a weekend, interchangeable in all calls;
  `SameWeekend.of_classifies` — that is so as soon as both come down to one classification with a
  working day.
* **`weekendDays_exact`** — what a list of weekdays makes, and what it can stand in for.
-/

namespace BusinessCalendar

/-! ## Lists of weekdays -/

/-- A value stands for a weekday if it is a number, a constant or a plain one, equal to the number of
that weekday. -/
def Value.IsWeekday (v : Value) (w : Weekday) : Prop := ∃ n, v = .number n ∧ n.value = w.index

/-- The days that the items of a list stand for. -/
def weekdaysIn (vs : List Value) : Set Weekday := {w | ∃ v ∈ vs, v.IsWeekday w}

lemma Value.IsWeekday.unique {v : Value} {w u : Weekday} (hw : v.IsWeekday w)
    (hu : v.IsWeekday u) : w = u := by
  obtain ⟨n, rfl, hn⟩ := hw
  obtain ⟨m, hm, hmu⟩ := hu
  cases hm
  exact Weekday.index_inj (hn.symm.trans hmu)

/-- Read item by item, a list yields its days. -/
lemma mem_iff_mem_weekdaysIn {vs : List Value} {ws : List Weekday}
    (h : List.Forall₂ Value.IsWeekday vs ws) (w : Weekday) : w ∈ ws ↔ w ∈ weekdaysIn vs := by
  induction h with
  | nil => simp [weekdaysIn]
  | @cons v u vs ws hv _ ih =>
    have hfirst : w = u ↔ v.IsWeekday w := ⟨fun heq => heq ▸ hv, fun hw => hw.unique hv⟩
    simp only [weekdaysIn, Set.mem_ofPred_eq] at ih
    simp only [weekdaysIn, Set.mem_ofPred_eq, List.mem_cons, exists_eq_or_imp, hfirst, ih]

lemma Weekend.ofDays_eq_true_iff {days : List Weekday} {w : Weekday} :
    ofDays days w = true ↔ w ∈ days := by
  rw [ofDays, List.contains_iff_mem]

lemma Weekend.same_iff {u w : Weekend} : u.same w = true ↔ u = w := by
  rw [same, beq_iff_eq]
  constructor
  · intro hdays
    rw [← days_ofDays_contains u, hdays, days_ofDays_contains]
  · rintro rfl
    rfl

namespace Call

variable {vs : List Value} {weekend : Weekend}

lemma mapM_requireWeekday_eq_ok_iff {argument : String} {ws : List Weekday} :
    vs.mapM (Value.requireWeekday argument) = .ok ws ↔ List.Forall₂ Value.IsWeekday vs ws := by
  simp only [mapM_eq_ok_iff, Value.requireWeekday_eq_ok_iff]
  rfl

lemma exists_mapM_requireWeekday_iff (argument : String) :
    (∃ ws, vs.mapM (Value.requireWeekday argument) = .ok ws) ↔ ∀ v ∈ vs, ∃ w, v.IsWeekday w := by
  simp only [exists_mapM_eq_ok_iff, Value.requireWeekday_eq_ok_iff]
  rfl

lemma weekendDays_list :
    weekendDays (.list vs) =
      vs.mapM (Value.requireWeekday "days") >>= fun ws => .ok (Weekend.ofDays ws) :=
  rfl

/-- **A list makes a weekend exactly when all its items are weekdays, and then the weekend has the
days of the list.** -/
theorem weekendDays_eq_ok_iff :
    weekendDays (.list vs) = .ok weekend ↔
      (∀ v ∈ vs, ∃ w, v.IsWeekday w) ∧ ∀ w, weekend w = true ↔ w ∈ weekdaysIn vs := by
  rw [weekendDays_list, bind_eq_ok_iff]
  constructor
  · rintro ⟨ws, hws, hdays⟩
    obtain rfl := Except.ok.inj hdays
    refine ⟨(exists_mapM_requireWeekday_iff _).1 ⟨ws, hws⟩, fun w => ?_⟩
    rw [Weekend.ofDays_eq_true_iff]
    exact mem_iff_mem_weekdaysIn (mapM_requireWeekday_eq_ok_iff.1 hws) w
  · rintro ⟨hvalid, hdays⟩
    obtain ⟨ws, hws⟩ := (exists_mapM_requireWeekday_iff _).2 hvalid
    refine ⟨ws, hws, congrArg _ (funext fun w => Bool.eq_iff_iff.2 ?_)⟩
    rw [hdays, Weekend.ofDays_eq_true_iff]
    exact mem_iff_mem_weekdaysIn (mapM_requireWeekday_eq_ok_iff.1 hws) w

lemma exists_weekendDays_iff :
    (∃ weekend, weekendDays (.list vs) = .ok weekend) ↔ ∀ v ∈ vs, ∃ w, v.IsWeekday w := by
  constructor
  · rintro ⟨weekend, h⟩
    exact (weekendDays_eq_ok_iff.1 h).1
  · intro hvalid
    obtain ⟨ws, hws⟩ := (exists_mapM_requireWeekday_iff _).2 hvalid
    exact ⟨_, bind_eq_ok_iff.2 ⟨ws, hws, rfl⟩⟩

/-- Days that were checked pass the second check, which leaves them as they are. -/
lemma weekendDaysOf_eq : weekendDaysOf vs = weekendDays (.list vs) := by
  have hagain : ∀ ws : List Weekday,
      weekendDays (.list (ws.map .weekday)) = .ok (Weekend.ofDays ws) := by
    intro ws
    rw [weekendDays_list, bind_eq_ok_iff]
    refine ⟨ws, ?_, rfl⟩
    rw [mapM_requireWeekday_eq_ok_iff, List.forall₂_map_left_iff]
    exact List.forall₂_same.2 fun w _ => ⟨.weekday w, rfl, rfl⟩
  simp only [weekendDaysOf, hagain, weekendDays_list]

end Call

/-! ## Weekends that cannot be told apart -/

/-- Two ways of giving a weekend, a definition with a provider each, have the same outcome in every
call, whatever the other argument is. -/
structure SameWeekend (definition provider definition' provider' : Value) : Prop where
  isWeekend : ∀ v, Call.isWeekend v definition provider = Call.isWeekend v definition' provider'
  isWeekendDate : ∀ v,
    Call.isWeekendDate v definition provider = Call.isWeekendDate v definition' provider'
  nextWorkingDay : ∀ v,
    Call.nextWorkingDay v definition provider = Call.nextWorkingDay v definition' provider'
  previousWorkingDay : ∀ v,
    Call.previousWorkingDay v definition provider = Call.previousWorkingDay v definition' provider'

/-- Only the report of a week without working days names the definition. -/
lemma Moment.stepToWorkingDay_congr {weekend : Weekend} (hsome : ∃ w, weekend w = false)
    (m : Moment) {step : Int} (hstep : step = 1 ∨ step = -1) (definition definition' : String) :
    m.stepToWorkingDay step weekend definition = m.stepToWorkingDay step weekend definition' := by
  obtain ⟨k, hk⟩ := (Weekend.exists_distance?_iff (n := m.dayNumber) hstep).2 hsome
  rw [stepToWorkingDay_eq_shift hk, stepToWorkingDay_eq_shift hk]

section Interchange

variable {definition provider definition' provider' : Value} {weekend : Weekend}
  (h : Classifies definition provider weekend) (h' : Classifies definition' provider' weekend)
  (hsome : ∃ w, weekend w = false)

include h h' hsome

lemma Call.stepToWorkingDay_congr (function : String) {step : Int} (hstep : step = 1 ∨ step = -1)
    (v : Value) :
    stepToWorkingDay function step v definition provider =
      stepToWorkingDay function step v definition' provider' := by
  rw [stepToWorkingDay, stepToWorkingDay, weekendOf_eq_ok_iff.2 h, weekendOf_eq_ok_iff.2 h', ok_bind,
    ok_bind]
  refine congrArg _ (funext fun m => ?_)
  rw [m.stepToWorkingDay_congr hsome hstep]

/-- **Two ways of giving one classification with a working day are interchangeable.** -/
theorem SameWeekend.of_classifies : SameWeekend definition provider definition' provider' where
  isWeekend v := by
    simp only [Call.isWeekend, Call.weekendOf_eq_ok_iff.2 h, Call.weekendOf_eq_ok_iff.2 h']
  isWeekendDate v := by
    simp only [Call.isWeekendDate, Call.weekendOf_eq_ok_iff.2 h, Call.weekendOf_eq_ok_iff.2 h']
  nextWorkingDay v := Call.stepToWorkingDay_congr h h' hsome _ (.inl rfl) v
  previousWorkingDay v := Call.stepToWorkingDay_congr h h' hsome _ (.inr rfl) v

end Interchange

/-- A built-in weekend leaves a working day. -/
lemma WeekendDefinition.exists_workingDay {d : WeekendDefinition} {days : List Weekday}
    (h : d.days? = some days) : ∃ w, Weekend.ofDays days w = false := by
  refine ⟨.monday, ?_⟩
  cases d <;> cases h <;> rfl

/-- What a list of weekdays makes, given item by item or as a collection. -/
structure WeekendDaysExact (vs : List Value) : Prop where
  /-- A list with an item that is no weekday makes no weekend. -/
  invalid : (∃ v ∈ vs, ∀ w, ¬v.IsWeekday w) →
    (∃ f, Call.weekendDaysOf vs = .error f) ∧ ∃ f, Call.weekendDays (.list vs) = .error f
  /-- Lists of weekdays make equal weekends exactly when they have the same days. -/
  equal : ∀ us, (∀ v ∈ vs, ∃ w, v.IsWeekday w) → (∀ u ∈ us, ∃ w, u.IsWeekday w) →
    ∃ weekend other,
      (Call.weekendDaysOf vs = .ok weekend ∧ Call.weekendDays (.list vs) = .ok weekend) ∧
      (Call.weekendDaysOf us = .ok other ∧ Call.weekendDays (.list us) = .ok other) ∧
      ((Value.weekendDays weekend).same (.weekendDays other) = true ↔
        weekdaysIn vs = weekdaysIn us)
  /-- A list of the days of a built-in definition can stand in for it in every call. -/
  builtin : ∀ (d : WeekendDefinition) (days : List Weekday), d.days? = some days →
    (∀ v ∈ vs, ∃ w, v.IsWeekday w) → (∀ w, w ∈ days ↔ w ∈ weekdaysIn vs) →
    ∃ weekend,
      (Call.weekendDaysOf vs = .ok weekend ∧ Call.weekendDays (.list vs) = .ok weekend) ∧
      ∀ provider, SameWeekend (.weekendDefinition .custom) (.weekendDays weekend)
        (.weekendDefinition d) provider

/-- **A list of weekdays is as good as the set of its days**, in any order and with any repetitions:
it makes one weekend, which is that of the definition with the same days, if there is one. -/
theorem weekendDays_exact (vs : List Value) : WeekendDaysExact vs where
  invalid := by
    rintro ⟨v, hv, hbad⟩
    have hrefused : ∃ f, Call.weekendDays (.list vs) = .error f := by
      cases hcall : Call.weekendDays (.list vs) with
      | error f => exact ⟨f, rfl⟩
      | ok weekend =>
        obtain ⟨w, hw⟩ := (Call.weekendDays_eq_ok_iff.1 hcall).1 v hv
        exact absurd hw (hbad w)
    rw [Call.weekendDaysOf_eq]
    exact ⟨hrefused, hrefused⟩
  equal us hvs hus := by
    obtain ⟨weekend, hweekend⟩ := Call.exists_weekendDays_iff.2 hvs
    obtain ⟨other, hother⟩ := Call.exists_weekendDays_iff.2 hus
    refine ⟨weekend, other, ⟨Call.weekendDaysOf_eq.trans hweekend, hweekend⟩,
      ⟨Call.weekendDaysOf_eq.trans hother, hother⟩, ?_⟩
    have hdays := (Call.weekendDays_eq_ok_iff.1 hweekend).2
    have hothers := (Call.weekendDays_eq_ok_iff.1 hother).2
    rw [Value.same, Weekend.same_iff]
    constructor
    · rintro rfl
      ext w
      rw [← hdays, hothers]
    · intro hsets
      funext w
      rw [Bool.eq_iff_iff, hdays, hothers, hsets]
  builtin d days hd hvs hset := by
    obtain ⟨weekend, hweekend⟩ := Call.exists_weekendDays_iff.2 hvs
    have hdays : weekend = Weekend.ofDays days := by
      funext w
      rw [Bool.eq_iff_iff, (Call.weekendDays_eq_ok_iff.1 hweekend).2, Weekend.ofDays_eq_true_iff, hset]
    refine ⟨weekend, ⟨Call.weekendDaysOf_eq.trans hweekend, hweekend⟩, fun provider => ?_⟩
    rw [hdays]
    exact .of_classifies (.days _) (.builtin hd provider) (WeekendDefinition.exists_workingDay hd)

/-- Two days in two spellings each are the weekend of Friday and Saturday; with a yes among them they
are none. -/
theorem weekendDays_exact_fridaySaturday :
    (∃ weekend, Call.weekendDaysOf [.weekday .saturday, .int 4, .int 5, .weekday .friday] =
        .ok weekend ∧
      SameWeekend (.weekendDefinition .custom) (.weekendDays weekend)
        (.weekendDefinition .fridaySaturday) .null) ∧
      ∃ f, Call.weekendDays (.list [.int 4, .bool true]) = .error f := by
  have hws : List.Forall₂ Value.IsWeekday [.weekday .saturday, .int 4, .int 5, .weekday .friday]
      [.saturday, .friday, .saturday, .friday] :=
    .cons ⟨_, rfl, rfl⟩ (.cons ⟨_, rfl, rfl⟩ (.cons ⟨_, rfl, rfl⟩ (.cons ⟨_, rfl, rfl⟩ .nil)))
  have hvs := (Call.exists_mapM_requireWeekday_iff "days").1
    ⟨_, Call.mapM_requireWeekday_eq_ok_iff.2 hws⟩
  have hset : ∀ w : Weekday, w ∈ [Weekday.friday, .saturday] ↔
      w ∈ [Weekday.saturday, .friday, .saturday, .friday] := by
    intro w
    cases w <;> decide
  obtain ⟨weekend, ⟨hweekend, -⟩, hsame⟩ := (weekendDays_exact _).builtin .fridaySaturday _ rfl hvs
    fun w => (hset w).trans (mem_iff_mem_weekdaysIn hws w)
  refine ⟨⟨weekend, hweekend, hsame .null⟩, ((weekendDays_exact _).invalid ?_).2⟩
  refine ⟨.bool true, List.mem_cons_of_mem _ List.mem_cons_self, ?_⟩
  rintro w ⟨n, hn, -⟩
  cases hn

end BusinessCalendar
