import BusinessCalendar.Proofs.FiscalYear.Derivation
import BusinessCalendar.Proofs.Quarter.Resolution

/-!
# Faults of arguments and failures of computations

Each argument of a call has a check of its own.  Two calls compute something before they have made all
of their checks: a fiscal year aligns its start before it looks at the length that was given, and the
n-th weekday in a quarter is looked for between boundaries that are found before the weekday and the
number are looked at.  **A fault of an argument is what such a call fails with, unless the computation
fails first** (`argumentFaults_reported`); that happens at the edges of the calendar only, and the
fault then stays unsaid.

* `faults` — what a check has against its argument; `Call.fiscalYearFaults`,
  `Call.nthInQuarterFaults` — all faults of the arguments of a call.
* `FaultsFirst` — how a call reports them, `FaultsFirst.check` and `FaultsFirst.compute` — one step of
  a call, of either kind.
* `EagerCall` — the two calls.
* `FiscalYear.alignBack_eq_error` and `Quarter.ofIndex_eq_error` say how the two computations fail: in
  ways in which the checks after them do not.
-/

namespace BusinessCalendar

/-! ## Calls as checks and computations -/

section Steps

variable {α β : Type}

/-- The fault that a check finds, if it finds one. -/
def faults (x : Outcome α) : List Fault :=
  match x with
  | .ok _ => []
  | .error f => [f]

/-- The fault of an argument that can be left out. -/
def faultsIfGiven (check : Value → Outcome α) : Value → List Fault
  | .null => []
  | v => faults (check v)

/-- How a call with some faulty arguments fails.  `hidden` says when a computation fails before the
faults are found. -/
structure FaultsFirst (faults : List Fault) (hidden : Prop) (x : Outcome α) : Prop where
  /-- The call ends with the fault that is found first. -/
  first : ¬hidden → ∀ f, faults.head? = some f → x = .error f
  /-- The call ends with a failure that is about none of the arguments. -/
  computed : hidden → ∃ f, x = .error f ∧ f ∉ faults ∧ f.kind = .range

namespace FaultsFirst

variable {x : Outcome β} {g : β → Outcome α} {rest : List Fault} {hidden hidden' : Prop}

lemma congr {y : Outcome α} (hiff : hidden ↔ hidden') (h : FaultsFirst rest hidden y) :
    FaultsFirst rest hidden' y := by
  rwa [← propext hiff]

/-- Where there is no fault there is nothing to report. -/
lemma nil (y : Outcome α) : FaultsFirst [] False y where
  first _ _ h := nomatch h
  computed h := h.elim

/-- A check ends the call with the fault that it finds. -/
lemma check {hidden : β → Prop} (h : ∀ b, x = .ok b → FaultsFirst rest (hidden b) (g b)) :
    FaultsFirst (faults x ++ rest) (∃ b, x = .ok b ∧ hidden b) (x >>= g) := by
  cases x with
  | error f =>
    constructor
    case first =>
      intro _ f' hf'
      cases hf'
      rfl
    case computed =>
      rintro ⟨b, hb, -⟩
      cases hb
  | ok b =>
    refine congr ?_ (h b rfl)
    simp only [Except.ok.injEq, exists_eq_left']

/-- After the last computation nothing is hidden any more. -/
lemma check_false (h : ∀ b, x = .ok b → FaultsFirst rest False (g b)) :
    FaultsFirst (faults x ++ rest) False (x >>= g) := by
  refine congr ?_ (check h)
  simp only [and_false, exists_false]

/-- A computation that fails ends the call before the faults that are left are found. -/
lemma compute (hfailure : ∀ f, x = .error f → f ∉ rest ∧ f.kind = .range)
    (h : ∀ b, x = .ok b → FaultsFirst rest False (g b)) :
    FaultsFirst rest (¬∃ b, x = .ok b) (x >>= g) := by
  cases x with
  | error f =>
    constructor
    case first =>
      intro hfound
      refine absurd ?_ hfound
      rintro ⟨b, hb⟩
      cases hb
    case computed =>
      intro _
      exact ⟨f, rfl, hfailure f rfl⟩
  | ok b =>
    refine congr (iff_of_false not_false ?_) (h b rfl)
    exact not_not_intro ⟨b, rfl⟩

/-- What is done with an answer does not matter. -/
lemma map {y : Outcome α} (h : FaultsFirst rest hidden y) (r : α → β) :
    FaultsFirst rest hidden (y.map r) where
  first hfound f hf := by
    rw [h.first hfound f hf]
    rfl
  computed hhidden := by
    obtain ⟨f, rfl, hnot, hkind⟩ := h.computed hhidden
    exact ⟨f, rfl, hnot, hkind⟩

/-- **A fault is reported exactly when no computation fails before it is found.** -/
theorem exists_mem_iff {y : Outcome α} {fs : List Fault} (h : FaultsFirst fs hidden y)
    (hne : fs ≠ []) : (∃ f ∈ fs, y = .error f) ↔ ¬hidden := by
  constructor
  · rintro ⟨f, hf, rfl⟩ hhidden
    obtain ⟨f', heq, hnot, -⟩ := h.computed hhidden
    cases heq
    exact hnot hf
  · intro hhidden
    exact ⟨fs.head hne, List.head_mem hne, h.first hhidden _ (List.head?_eq_some_head hne)⟩

end FaultsFirst

end Steps

/-! ## Checks -/

section Checks

variable {argument : String} {v : Value} {f : Fault}

lemma mem_faults_iff {α : Type} {x : Outcome α} : f ∈ faults x ↔ x = .error f := by
  cases x with
  | ok a => simp [faults]
  | error f' => simp [faults, eq_comm]

lemma eq_error_of_mem_faultsIfGiven {α : Type} {check : Value → Outcome α}
    (h : f ∈ faultsIfGiven check v) : check v = .error f := by
  cases v with
  | null => cases h
  | _ => exact mem_faults_iff.1 h

lemma Value.requireInt_error_code (h : v.requireInt argument = .error f) : f.code? = none := by
  cases v with
  | number n => cases h
  | _ =>
    cases h
    rfl

lemma Value.requireWeekday_error_code (h : v.requireWeekday argument = .error f) :
    f.code? = none ∨ f.code? = some .weekdayOutOfRange := by
  cases v with
  | number n =>
    rw [requireWeekday_number] at h
    split at h
    · cases h
    · cases h
      exact Cause.fault_code?_eq _
  | _ =>
    cases h
    exact .inl rfl

end Checks

/-! ## Aligning a start -/

namespace FiscalYear

variable {start nominal : Date} {w : Weekday}

/-- What is wrong with a length is found only once the start is aligned. -/
lemma build_faultsFirst {long : Date → Outcome Bool} {fs : List Fault}
    (hlong : ∀ aligned, faults (long aligned) = fs)
    (hcode : ∀ f ∈ fs, f.code? ≠ some .resultOutOfRange) :
    FaultsFirst fs (w.weekStart start.dayNumber < minDay) (build start nominal w long).outcome := by
  have hrest : ∀ s : { d : Date // d.weekday = w }, FaultsFirst fs False (do
      let b ← long s.val
      return { start := s.val, firstWeekday := w, long := b, nominalStart := nominal
               start_weekday := s.property : FiscalYear }) := by
    intro s
    rw [← hlong s.val, ← List.append_nil (faults (long s.val))]
    exact .check_false fun b _ => .nil _
  rw [build_outcome]
  refine .congr ?_ (.compute ?_ fun s _ => hrest s)
  · simp only [liftM_eq_ok_iff, exists_alignBack_iff, Int.not_le]
  · intro f hf
    obtain ⟨c, hc, rfl⟩ := liftM_eq_error_iff.1 hf
    have hwritable := alignBack_writable hc
    rw [alignBack_eq_error hc] at hwritable ⊢
    exact ⟨fun hmem => hcode _ hmem (Cause.fault_code? hwritable), Cause.fault_kind hwritable⟩

/-- An alignment is noticed when it moves the start, which it does from any other weekday. -/
lemma build_notices_iff (long : Date → Outcome Bool) :
    (build start nominal w long).notices = [] ↔
      ¬(minDay ≤ w.weekStart start.dayNumber ∧ start.weekday ≠ w) := by
  rw [build, ← exists_alignBack_iff]
  cases hs : alignBack start w with
  | error c =>
    refine iff_of_true rfl ?_
    rintro ⟨⟨_, hok⟩, -⟩
    cases hok
  | ok s =>
    have hday := alignBack_eq_ok_iff.1 hs
    have hmoved : s.val = start ↔ start.weekday = w := by
      constructor
      · rintro rfl
        exact s.property
      · intro hw
        exact Date.dayNumber_inj (hday.trans (w.weekStart_of_onDay hw))
    simp only [alignmentNotices, hmoved]
    by_cases hw : start.weekday = w
    · simp [hw]
    · simp [hw]

end FiscalYear

/-! ## The two calls -/

namespace Call

/-- What is wrong with the length of a fiscal year, if one is given. -/
def lengthFaults (weeks : Value) : List Fault :=
  faultsIfGiven (fun v => do FiscalYear.checkLong (← v.requireInt "weeks")) weeks

/-- The faults of the arguments of a fiscal year. -/
def fiscalYearFaults (start firstWeekday weeks nominalStart : Value) : List Fault :=
  [faults (start.requireDate "fiscal_year_start"),
    faultsIfGiven (Value.requireDate "nominal_start") nominalStart,
    faults (firstWeekday.requireWeekday "first_weekday"),
    lengthFaults weeks].flatten

/-- The faults of the arguments of an occurrence in a quarter. -/
def nthInQuarterFaults (year quarter weekday occurrence definition : Value) : List Fault :=
  [faults (anchorFor "nth_occurrence_in_quarter" definition),
    faults (year.requireYear "year"),
    faults (quarter.requireQuarter "quarter"),
    faults (weekday.requireWeekday "weekday"),
    faults (occurrence.requireInt "occurrence")].flatten

/-- The start of a fiscal year would have to be aligned to a day before the first one. -/
def AlignmentFails (start firstWeekday nominalStart : Value) : Prop :=
  ∃ s nominal w, fiscalYearParts start firstWeekday nominalStart = .ok (s, nominal, w) ∧
    w.weekStart s.dayNumber < minDay

/-- The start of a fiscal year is moved by its alignment. -/
def AlignmentMoves (start firstWeekday nominalStart : Value) : Prop :=
  ∃ s nominal w, fiscalYearParts start firstWeekday nominalStart = .ok (s, nominal, w) ∧
    minDay ≤ w.weekStart s.dayNumber ∧ s.weekday ≠ w

/-- A quarter goes on past the last day. -/
def BoundariesFail (year quarter definition : Value) : Prop :=
  ∃ a y q, anchorFor "nth_occurrence_in_quarter" definition = .ok a ∧
    year.requireYear "year" = .ok y ∧ quarter.requireQuarter "quarter" = .ok q ∧
      maxDay < a.startDay y (q + 1) - 1

/-- The nominal date of a fiscal year, which is its start if none is given. -/
def nominalDate (start : Moment) : Value → Outcome Moment
  | .null => .ok start
  | v => v.requireDate "nominal_start"

lemma faults_nominalDate (start : Moment) (nominalStart : Value) :
    faults (nominalDate start nominalStart) =
      faultsIfGiven (Value.requireDate "nominal_start") nominalStart := by
  cases nominalStart <;> rfl

/-- A length that is not given is derived, and that always succeeds. -/
lemma faults_fiscalYearLong (weeks : Value) (nominal : Date) (w : Weekday) (aligned : Date) :
    faults (fiscalYearLong weeks nominal w aligned) = lengthFaults weeks := by
  cases weeks with
  | null =>
    obtain ⟨long, hlong⟩ := FiscalYear.exists_derivedLong aligned nominal w
    rw [fiscalYearLong, hlong]
    rfl
  | _ => rfl

lemma fiscalYearParts_eq (start firstWeekday nominalStart : Value) :
    fiscalYearParts start firstWeekday nominalStart = (do
      let s ← start.requireDate "fiscal_year_start"
      let n ← nominalDate s nominalStart
      let w ← firstWeekday.requireWeekday "first_weekday"
      return (s.date, n.date, w)) := by
  cases nominalStart <;> rfl

/-- What a fiscal year is made by, step by step. -/
lemma fiscalYear_outcome (start firstWeekday weeks nominalStart : Value) :
    (fiscalYear start firstWeekday weeks nominalStart).outcome = (do
      let s ← start.requireDate "fiscal_year_start"
      let n ← nominalDate s nominalStart
      let w ← firstWeekday.requireWeekday "first_weekday"
      (FiscalYear.build s.date n.date w (fiscalYearLong weeks n.date w)).outcome) := by
  rw [fiscalYear, fiscalYearParts_eq]
  cases start.requireDate "fiscal_year_start" with
  | error f => rfl
  | ok s =>
    simp only [ok_bind]
    cases nominalDate s nominalStart with
    | error f => rfl
    | ok n =>
      cases firstWeekday.requireWeekday "first_weekday" with
      | error f => rfl
      | ok w => rfl

/-- The parts of a fiscal year are what its first three checks let through. -/
lemma exists_fiscalYearParts_iff {start firstWeekday nominalStart : Value}
    {p : Date → Weekday → Prop} :
    (∃ s nominal w, fiscalYearParts start firstWeekday nominalStart = .ok (s, nominal, w) ∧ p s w) ↔
      ∃ s, start.requireDate "fiscal_year_start" = .ok s ∧
        ∃ n, nominalDate s nominalStart = .ok n ∧
          ∃ w, firstWeekday.requireWeekday "first_weekday" = .ok w ∧ p s.date w := by
  simp only [fiscalYearParts_eq, bind_eq_ok_iff, pure_eq_ok, Except.ok.injEq, Prod.mk.injEq]
  constructor
  · rintro ⟨_, _, _, ⟨s, hs, n, hn, w, hw, rfl, -, rfl⟩, hp⟩
    exact ⟨s, hs, n, hn, w, hw, hp⟩
  · rintro ⟨s, hs, n, hn, w, hw, hp⟩
    exact ⟨_, _, _, ⟨s, hs, n, hn, w, hw, rfl, rfl, rfl⟩, hp⟩

lemma lengthFaults_code {weeks : Value} {f : Fault} (h : f ∈ lengthFaults weeks) :
    f.code? = none ∨ f.code? = some .fiscalWeeksOutOfRange := by
  rcases bind_eq_error_iff.1 (eq_error_of_mem_faultsIfGiven h) with h | ⟨n, -, h⟩
  · exact .inl (Value.requireInt_error_code h)
  · obtain ⟨c, hc, rfl⟩ := liftM_eq_error_iff.1 h
    rw [FiscalYear.checkLong] at hc
    split_ifs at hc
    cases hc
    exact Cause.fault_code?_eq _

/-- **A faulty length is found only once the start is aligned**; all other arguments are looked at
before. -/
theorem fiscalYear_faultsFirst (start firstWeekday weeks nominalStart : Value) :
    FaultsFirst (fiscalYearFaults start firstWeekday weeks nominalStart)
      (AlignmentFails start firstWeekday nominalStart)
      (fiscalYear start firstWeekday weeks nominalStart).outcome := by
  have hcode : ∀ f ∈ [lengthFaults weeks].flatten, f.code? ≠ some .resultOutOfRange := by
    rw [List.flatten_singleton]
    intro f hf
    rcases lengthFaults_code hf with h | h <;> simp [h]
  rw [fiscalYear_outcome]
  -- three checks, and what is left is to build the year
  refine .congr exists_fiscalYearParts_iff.symm (.check fun s _ => ?_)
  rw [List.flatten_cons, ← faults_nominalDate s]
  refine .check fun n _ => .check fun w _ => FiscalYear.build_faultsFirst ?_ hcode
  intro aligned
  rw [faults_fiscalYearLong, List.flatten_singleton]

lemma fiscalYear_notices_iff (start firstWeekday weeks nominalStart : Value) :
    (fiscalYear start firstWeekday weeks nominalStart).notices = [] ↔
      ¬AlignmentMoves start firstWeekday nominalStart := by
  rw [fiscalYear, AlignmentMoves]
  cases fiscalYearParts start firstWeekday nominalStart with
  | error f =>
    refine iff_of_true rfl ?_
    rintro ⟨_, _, _, hok, -⟩
    cases hok
  | ok parts =>
    rw [FiscalYear.build_notices_iff]
    refine not_congr ⟨fun hmoves => ⟨_, _, _, rfl, hmoves⟩, ?_⟩
    rintro ⟨_, _, _, hparts, hmoves⟩
    cases hparts
    exact hmoves

/-- From the boundaries of the quarter on. -/
lemma nthInSpan_faultsFirst {year quarter weekday occurrence : Value} {a : Anchor} {y q : Int}
    (hy : year.requireYear "year" = .ok y) (hq : quarter.requireQuarter "quarter" = .ok q) :
    FaultsFirst
      [faults (weekday.requireWeekday "weekday"), faults (occurrence.requireInt "occurrence")].flatten
      (maxDay < a.startDay y (q + 1) - 1) (do
        let span ← Quarter.ofIndex y q a
        let w ← weekday.requireWeekday "weekday"
        let k ← occurrence.requireInt "occurrence"
        span.nthOccurrence w k : Outcome Date) := by
  simp only [Value.requireYear, bind_eq_ok_iff, liftM_eq_ok_iff, checkYear_eq_ok_iff] at hy
  obtain ⟨_, -, hyear, rfl⟩ := hy
  obtain ⟨_, -, hquarter, rfl⟩ := Value.requireQuarter_eq_ok_iff.1 hq
  refine .congr ?_ (.compute ?_ fun span _ => .check_false fun w _ => .check_false fun k _ => .nil _)
  · simp only [liftM_eq_ok_iff, Quarter.exists_ofIndex_iff hyear.1 hquarter.1, Int.not_le]
  · intro f hf
    obtain ⟨c, hc, rfl⟩ := liftM_eq_error_iff.1 hf
    have hwritable := Quarter.ofIndex_writable hyear hquarter hc
    rw [Cause.fault_eq hwritable]
    refine ⟨fun hmem => ?_, Quarter.ofIndex_error_kind hc⟩
    simp only [List.flatten_cons, List.flatten_nil, List.append_nil, List.mem_append,
      mem_faults_iff] at hmem
    have hcode : (Fault.cause c).code? = none ∨ (Fault.cause c).code? = some .weekdayOutOfRange :=
      hmem.elim Value.requireWeekday_error_code fun h => .inl (Value.requireInt_error_code h)
    rw [Fault.code?_cause] at hcode
    -- boundaries fail under other codes than the checks that come after them
    rcases Quarter.ofIndex_eq_error hc with ⟨_, rfl⟩ | ⟨_, rfl⟩ <;>
      rcases hcode with hcode | hcode <;> cases hcode

/-- **A faulty weekday or number is found only once the quarter has its boundaries**; all other
arguments are looked at before. -/
theorem nthInQuarter_faultsFirst (year quarter weekday occurrence definition : Value) :
    FaultsFirst (nthInQuarterFaults year quarter weekday occurrence definition)
      (BoundariesFail year quarter definition)
      (nthInQuarter year quarter weekday occurrence definition) := by
  refine .congr ?_ (.check fun a _ => .check fun y hy => .check fun q hq =>
    nthInSpan_faultsFirst hy hq)
  simp only [BoundariesFail, exists_and_left]

end Call

/-- A call that computes something before it has made all of its checks. -/
inductive EagerCall where
  | fiscalYear (start firstWeekday weeks nominalStart : Value)
  | nthInQuarter (year quarter weekday occurrence definition : Value)

namespace EagerCall

/-- The outcome of a call and the notices that it writes. -/
def answer : EagerCall → Logged Value
  | fiscalYear start firstWeekday weeks nominalStart =>
    let made := Call.fiscalYear start firstWeekday weeks nominalStart
    { notices := made.notices, outcome := made.outcome.map .fiscalYear }
  | nthInQuarter year quarter weekday occurrence definition =>
    .silent ((Call.nthInQuarter year quarter weekday occurrence definition).map .date)

/-- The faults of the arguments, in the order of the checks. -/
def faults : EagerCall → List Fault
  | fiscalYear start firstWeekday weeks nominalStart =>
    Call.fiscalYearFaults start firstWeekday weeks nominalStart
  | nthInQuarter year quarter weekday occurrence definition =>
    Call.nthInQuarterFaults year quarter weekday occurrence definition

/-- The computation fails before all checks are made: the start of a fiscal year cannot be aligned, or
a quarter goes on past the last day. -/
def ComputationFails : EagerCall → Prop
  | fiscalYear start firstWeekday _ nominalStart =>
    Call.AlignmentFails start firstWeekday nominalStart
  | nthInQuarter year quarter _ _ definition => Call.BoundariesFail year quarter definition

/-- The computation has an effect that is noticed: the start of a fiscal year is moved. -/
def ComputationNoticed : EagerCall → Prop
  | fiscalYear start firstWeekday _ nominalStart =>
    Call.AlignmentMoves start firstWeekday nominalStart
  | nthInQuarter .. => False

lemma faultsFirst (call : EagerCall) :
    FaultsFirst call.faults call.ComputationFails call.answer.outcome := by
  cases call with
  | fiscalYear start firstWeekday weeks nominalStart =>
    exact (Call.fiscalYear_faultsFirst start firstWeekday weeks nominalStart).map _
  | nthInQuarter year quarter weekday occurrence definition =>
    exact (Call.nthInQuarter_faultsFirst year quarter weekday occurrence definition).map _

lemma notices_iff (call : EagerCall) :
    call.answer.notices = [] ↔ ¬call.ComputationNoticed := by
  cases call with
  | fiscalYear start firstWeekday weeks nominalStart =>
    exact Call.fiscalYear_notices_iff start firstWeekday weeks nominalStart
  | nthInQuarter year quarter weekday occurrence definition => exact iff_of_true rfl not_false

end EagerCall

/-- **A fault of an argument is what a call fails with, unless a computation fails first.**  Of several
faults it is the one that is found first.  Otherwise the call fails all the same, but with a failure
that is about none of its arguments as they were given.  Faults do not keep an effect of the
computation from being noticed, and nothing else is noticed. -/
theorem argumentFaults_reported (call : EagerCall) (hfaults : call.faults ≠ []) :
    FaultsFirst call.faults call.ComputationFails call.answer.outcome ∧
      ((∃ f ∈ call.faults, call.answer.outcome = .error f) ↔ ¬call.ComputationFails) ∧
      (call.answer.notices = [] ↔ ¬call.ComputationNoticed) :=
  ⟨call.faultsFirst, call.faultsFirst.exists_mem_iff hfaults, call.notices_iff⟩

/-- A Sunday in February. -/
def Date.februarySunday : Date := { year := 2024, month := 2, day := 4, valid := by decide }

/-- 54 weeks from a Sunday, on which the weeks start. -/
def EagerCall.longYear : EagerCall :=
  .fiscalYear (.date .februarySunday) (.weekday .sunday) (.int 54) .null

/-- A length of 54 weeks is reported where there is nothing to align, and nothing is noticed. -/
theorem argumentFaults_reported_longYear :
    EagerCall.longYear.faults ≠ [] ∧
      EagerCall.longYear.answer.outcome = .error (.cause (.fiscalWeeksOutOfRange (54 : Int))) ∧
      EagerCall.longYear.answer.notices = [] := by
  have hfaults : EagerCall.longYear.faults ≠ [] := nofun
  obtain ⟨hfirst, -, hsilent⟩ := argumentFaults_reported .longYear hfaults
  refine ⟨hfaults, hfirst.first ?_ _ rfl, hsilent.2 ?_⟩
  · rintro ⟨_, _, _, hparts, hbefore⟩
    cases hparts
    exact absurd hbefore (by decide)
  · rintro ⟨_, _, _, hparts, -, hweekday⟩
    cases hparts
    exact hweekday (by decide)

/-- The second day of the calendar. -/
def Date.firstTuesday : Date := { year := 1, month := 1, day := 2, valid := by decide }

/-- A Thursday in February. -/
def Date.februaryThursday : Date := { year := 2024, month := 2, day := 1, valid := by decide }

/-- 54 weeks from the Sunday before a day of the first week of the calendar, which has no Sunday
before it. -/
def EagerCall.longFirstYear : EagerCall :=
  .fiscalYear (.date .firstTuesday) (.weekday .sunday) (.int 54) .null

/-- 54 weeks from the Sunday before a Thursday. -/
def EagerCall.longAlignedYear : EagerCall :=
  .fiscalYear (.date .februaryThursday) (.weekday .sunday) (.int 54) .null

/-- The first day on weekday 9 in a quarter of year 10000. -/
def EagerCall.weekdayNine : EagerCall :=
  .nthInQuarter (.int 9999) (.int 4) (.int 9) (.int 1) (.quarterDefinition .financialJuly)

/-- A faulty length and a faulty weekday that stay unsaid, and a faulty length that is found only after
a notice. -/
theorem argumentFaults_hidden :
    (EagerCall.longFirstYear.faults = [.cause (.fiscalWeeksOutOfRange (54 : Int))] ∧
      EagerCall.longFirstYear.answer.outcome =
        .error (.cause (.resultOutOfRange (Moment.ofDate .firstTuesday).iso (-2 : Int)))) ∧
    (EagerCall.weekdayNine.faults = [.cause (.weekdayOutOfRange "weekday" (9 : Int))] ∧
      EagerCall.weekdayNine.answer.outcome =
        .error (.cause (.yearOutOfRange "year" (10000 : Int)))) ∧
    (EagerCall.longAlignedYear.faults = [.cause (.fiscalWeeksOutOfRange (54 : Int))] ∧
      EagerCall.longAlignedYear.answer.notices ≠ []) := by
  refine ⟨⟨rfl, rfl⟩, ⟨rfl, rfl⟩, rfl, ?_⟩
  rw [Ne, EagerCall.notices_iff, not_not]
  exact ⟨_, _, _, rfl, by decide, by decide⟩

end BusinessCalendar
