import BusinessCalendar.Call.Quarter
import Mathlib

/-!
# Which calls succeed

A call is a sequence of checks and a computation.  It succeeds exactly when each of them does, in
turn, so a statement about a successful call is a statement about every step of it.

* `bind_eq_ok_iff`, `bind_eq_error_iff` — the rule for one step; `liftM_eq_ok_iff` carries it across
  the border between calendar arithmetic, which fails with a `Cause`, and calls, which fail with a
  `Fault`.
* `checkYear_eq_ok_iff` and its kin — the numbers that a check lets through; `exists_checked_iff`
  goes on with such a number.
* `requireYear_number` and its kin — the same checks on an argument that is a number;
  `requireWeekday_eq_ok_iff`, `requireQuarter_eq_ok_iff` — the numbers that are weekdays or quarters;
  `requireYear_eq_ok` and its kin — a number in range gets through.
* `Date.atDay_eq_error_iff`, `Fault.code?_cause` — how a day without a date is reported.
* `Cause.fault_eq`, `Cause.fault_eq_wording` — a cause is raised as a complaint in its words, or, where
  it has none, as the failure to find them.  Only a number of more than `maxDigits` digits has none
  (`Numeral.writable_iff`).
-/

namespace BusinessCalendar

/-! ## What a cause is raised as -/

/-- The integers that can be put into words are those of at most that many digits. -/
lemma Numeral.writable_iff {n : Numeral} : n.Writable ↔ n.value.natAbs < 10 ^ maxDigits :=
  Nat.length_toDigits_le_iff (by decide) (by decide)

/-- A number of up to eight digits can be put into words. -/
lemma Numeral.writable_of_natAbs_lt {n : Numeral} (h : n.value.natAbs < 10 ^ 8) : n.Writable :=
  writable_iff.2 (h.trans_le (Nat.pow_le_pow_right (by decide) (by decide)))

/-- The least integer that cannot be put into words. -/
lemma Numeral.not_writable_pow : ¬(plain (10 ^ maxDigits)).Writable := by
  have hten : Int.natAbs 10 = 10 := rfl
  rw [writable_iff, value_plain, Int.natAbs_pow, hten]
  exact Nat.lt_irrefl _

lemma Fault.code?_cause (c : Cause) : (Fault.cause c).code? = some c.code := by
  rw [code?, report, Report.diagnostic?, Option.map_some, CauseOf.diagnostic_code]

namespace Cause

variable {c : Cause}

lemma fault_eq (h : c.Writable) : c.fault = .cause c := if_pos h

lemma fault_eq_wording (h : ¬c.Writable) : c.fault = .wording .tooManyDigits := if_neg h

lemma fault_kind (h : c.Writable) : c.fault.kind = c.kind := by
  rw [fault_eq h]
  rfl

lemma fault_code? (h : c.Writable) : c.fault.code? = some c.code := by
  rw [fault_eq h, Fault.code?_cause]

/-- What is raised for a cause has its code, or none at all. -/
lemma fault_code?_eq (c : Cause) : c.fault.code? = none ∨ c.fault.code? = some c.code := by
  by_cases h : c.Writable
  · exact .inr (fault_code? h)
  · rw [fault_eq_wording h]
    exact .inl rfl

lemma writable_yearOutOfRange {argument : String} {year : Int} (h : year.natAbs < 10 ^ 8) :
    Writable (.yearOutOfRange argument year) :=
  List.forall_mem_singleton.2 (Numeral.writable_of_natAbs_lt h)

lemma writable_dayNumberOutOfRange {n : Int} (h : n.natAbs < 10 ^ 8) :
    Writable (.dayNumberOutOfRange n minDay maxDay) :=
  List.forall_mem_cons.2 ⟨Numeral.writable_of_natAbs_lt h, by decide⟩

end Cause

/-! ## Sequences of steps -/

section Steps

variable {ε α β : Type}

/-- Two steps succeed exactly when the first does and the second does after it. -/
lemma bind_eq_ok_iff {x : Except ε α} {f : α → Except ε β} {b : β} :
    (x >>= f) = .ok b ↔ ∃ a, x = .ok a ∧ f a = .ok b := by
  cases x with
  | error e => simp [bind, Except.bind]
  | ok a => simp [bind, Except.bind]

/-- Two steps fail exactly when the first does, or the second does after it. -/
lemma bind_eq_error_iff {x : Except ε α} {f : α → Except ε β} {e : ε} :
    (x >>= f) = .error e ↔ x = .error e ∨ ∃ a, x = .ok a ∧ f a = .error e := by
  cases x with
  | error e' => simp [bind, Except.bind]
  | ok a => simp [bind, Except.bind]

@[simp] lemma ok_bind (a : α) (f : α → Except ε β) : ((.ok a : Except ε α) >>= f) = f a := rfl

@[simp] lemma error_bind (e : ε) (f : α → Except ε β) :
    ((.error e : Except ε α) >>= f) = .error e := rfl

@[simp] lemma pure_eq_ok (a : α) : (pure a : Except ε α) = .ok a := rfl

/-- A guard lets a value through exactly when its condition holds. -/
lemma ite_eq_ok_iff {p : Prop} [Decidable p] {a b : α} {e : ε} :
    (if p then .ok a else .error e : Except ε α) = .ok b ↔ p ∧ a = b := by
  by_cases hp : p
  · simp [hp]
  · simp [hp]

/-- What a check lets through is the number that it was given. -/
lemma exists_checked_iff {p : Prop} {a : α} {q : α → Prop} :
    (∃ b, (p ∧ a = b) ∧ q b) ↔ p ∧ q a := by
  constructor
  · rintro ⟨_, ⟨hp, rfl⟩, hq⟩
    exact ⟨hp, hq⟩
  · rintro ⟨hp, hq⟩
    exact ⟨a, ⟨hp, rfl⟩, hq⟩

/-- A step taken for each item of a list succeeds exactly when it does for every one of them. -/
lemma mapM_eq_ok_iff {f : α → Except ε β} {xs : List α} {ys : List β} :
    xs.mapM f = .ok ys ↔ List.Forall₂ (fun x y => f x = .ok y) xs ys := by
  induction xs generalizing ys with
  | nil =>
    rw [List.mapM_nil, pure_eq_ok, Except.ok.injEq, List.forall₂_nil_left_iff]
    exact eq_comm
  | cons x xs ih =>
    simp only [List.mapM_cons, bind_eq_ok_iff, pure_eq_ok, Except.ok.injEq, ih,
      List.forall₂_cons_left_iff]
    constructor
    · rintro ⟨y, hy, zs, hzs, rfl⟩
      exact ⟨y, zs, hy, hzs, rfl⟩
    · rintro ⟨y, zs, hy, hzs, rfl⟩
      exact ⟨y, hy, zs, hzs, rfl⟩

lemma exists_mapM_eq_ok_iff {f : α → Except ε β} {xs : List α} :
    (∃ ys, xs.mapM f = .ok ys) ↔ ∀ x ∈ xs, ∃ y, f x = .ok y := by
  simp only [mapM_eq_ok_iff]
  induction xs with
  | nil => simp
  | cons x xs ih =>
    simp only [List.forall₂_cons_left_iff, List.forall_mem_cons, ← ih]
    constructor
    · rintro ⟨_, y, ys, hy, hys, -⟩
      exact ⟨⟨y, hy⟩, ys, hys⟩
    · rintro ⟨⟨y, hy⟩, ys, hys⟩
      exact ⟨y :: ys, y, ys, hy, hys, rfl⟩

end Steps

section Lift

variable {α : Type}

@[simp] lemma liftM_ok (a : α) : (liftM (.ok a : Except Cause α) : Outcome α) = .ok a := rfl

@[simp] lemma liftM_error (c : Cause) :
    (liftM (.error c : Except Cause α) : Outcome α) = .error c.fault := rfl

/-- A lifted computation succeeds exactly when the computation does. -/
@[simp] lemma liftM_eq_ok_iff {x : Except Cause α} {a : α} :
    (liftM x : Outcome α) = .ok a ↔ x = .ok a := by
  cases x with
  | error c => simp
  | ok b => simp

/-- A lifted computation fails only for a cause. -/
lemma liftM_eq_error_iff {x : Except Cause α} {f : Fault} :
    (liftM x : Outcome α) = .error f ↔ ∃ c, x = .error c ∧ f = c.fault := by
  cases x with
  | error c => simp [eq_comm]
  | ok a => simp

/-- Words that are lifted fail only for what cannot be put into words. -/
lemma liftM_eq_wording_iff {x : Except WordingFault α} {f : Fault} :
    (liftM x : Outcome α) = .error f ↔ ∃ w, x = .error w ∧ f = .wording w := by
  cases x with
  | error w => simp [liftM, monadLift, MonadLift.monadLift, Except.mapError, eq_comm]
  | ok a => simp [liftM, monadLift, MonadLift.monadLift, Except.mapError]

end Lift

/-! ## Numbers in range -/

section Checks

variable {argument : String} {n : Numeral}

lemma checkYear_eq_ok_iff {y : Int} :
    checkYear argument n = .ok y ↔ (minYear ≤ n.value ∧ n.value ≤ maxYear) ∧ n.value = y :=
  ite_eq_ok_iff

lemma checkMonth_eq_ok_iff {m : Int} :
    checkMonth argument n = .ok m ↔ (1 ≤ n.value ∧ n.value ≤ 12) ∧ n.value = m :=
  ite_eq_ok_iff

lemma checkQuarter_eq_ok_iff {q : Int} :
    checkQuarter argument n = .ok q ↔ (1 ≤ n.value ∧ n.value ≤ 4) ∧ n.value = q :=
  ite_eq_ok_iff

lemma checkDayNumber_eq_ok_iff {k : Int} :
    checkDayNumber n = .ok k ↔ Representable n.value ∧ n.value = k :=
  ite_eq_ok_iff

lemma checkDayOfMonth_eq_ok_iff {year month d : Int} :
    checkDayOfMonth year month n = .ok d ↔
      (1 ≤ n.value ∧ n.value ≤ daysInMonth year month) ∧ n.value = d :=
  ite_eq_ok_iff

end Checks

/-! ## Arguments that are numbers -/

namespace Value

@[simp] lemma requireInt_number (argument : String) (n : Numeral) :
    (number n).requireInt argument = .ok n := rfl

@[simp] lemma requireYear_number (argument : String) (n : Numeral) :
    (number n).requireYear argument = liftM (checkYear argument n) := rfl

@[simp] lemma requireMonth_number (argument : String) (n : Numeral) :
    (number n).requireMonth argument = liftM (checkMonth argument n) := rfl

@[simp] lemma requireQuarter_number (argument : String) (n : Numeral) :
    (number n).requireQuarter argument = liftM (checkQuarter argument n) := rfl

@[simp] lemma requireDayNumber_number (argument : String) (n : Numeral) :
    (number n).requireDayNumber argument = liftM (checkDayNumber n) := rfl

@[simp] lemma requireDate_moment (argument : String) (m : Moment) :
    (moment m).requireDate argument = .ok m := rfl

@[simp] lemma requireConvention_convention (c : WeekConvention) :
    (convention c).requireConvention = .ok c := rfl

/-- A weekday constant and the plain integer that it stands for are the same weekday. -/
lemma requireWeekday_number (argument : String) (n : Numeral) :
    (number n).requireWeekday argument =
      match Weekday.ofIndex? n.value with
      | some w => .ok w
      | none => raise (.weekdayOutOfRange argument n) := by
  cases n with
  | weekday w => rw [Numeral.value, Weekday.ofIndex?_index, requireWeekday]
  | plain k => rfl
  | ordinal o => rfl
  | rule r => rfl

lemma requireWeekday_eq_ok_iff {argument : String} {v : Value} {w : Weekday} :
    v.requireWeekday argument = .ok w ↔ ∃ n, v = .number n ∧ n.value = w.index := by
  cases v with
  | number n =>
    rw [requireWeekday_number]
    simp only [number.injEq, exists_eq_left', ← Weekday.ofIndex?_eq_some_iff]
    cases Weekday.ofIndex? n.value with
    | some u => simp
    | none => simp [raise]
  | _ => simp [requireWeekday, requireInt]

lemma requireQuarter_eq_ok_iff {argument : String} {v : Value} {q : Int} :
    v.requireQuarter argument = .ok q ↔
      ∃ n, v = .number n ∧ (1 ≤ n.value ∧ n.value ≤ 4) ∧ n.value = q := by
  cases v with
  | number n =>
    rw [requireQuarter_number, liftM_eq_ok_iff, checkQuarter_eq_ok_iff]
    simp only [number.injEq, exists_eq_left']
  | _ => simp [requireQuarter, requireInt]

section InRange

variable {n : Numeral} (argument : String)

lemma requireYear_eq_ok (h : minYear ≤ n.value ∧ n.value ≤ maxYear) :
    (number n).requireYear argument = .ok n.value := by
  rw [requireYear_number, checkYear_eq_ok_iff.2 ⟨h, rfl⟩, liftM_ok]

lemma requireMonth_eq_ok (h : 1 ≤ n.value ∧ n.value ≤ 12) :
    (number n).requireMonth argument = .ok n.value := by
  rw [requireMonth_number, checkMonth_eq_ok_iff.2 ⟨h, rfl⟩, liftM_ok]

lemma requireWeekday_eq_ok {w : Weekday} (h : n.value = w.index) :
    (number n).requireWeekday argument = .ok w :=
  requireWeekday_eq_ok_iff.2 ⟨n, rfl, h⟩

end InRange

end Value

/-! ## Days without a date -/

namespace Date

lemma atDay_eq_error_iff {n : Int} {c : Cause} :
    atDay n = .error c ↔ ¬Representable n ∧ c = .dayNumberOutOfRange n minDay maxDay := by
  rw [atDay]
  split
  · rename_i h
    simp [h]
  · rename_i h
    simp [h, eq_comm]

lemma atDay_error_kind {n : Int} {c : Cause} (h : atDay n = .error c) : c.kind = .range := by
  rw [(atDay_eq_error_iff.1 h).2]
  rfl

end Date

end BusinessCalendar
