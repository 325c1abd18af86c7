import BusinessCalendar.Call.Provider
import BusinessCalendar.Proofs.Quarter.Tiling

/-!
# Asking a provider for quarters

A quarter provider is code that a caller brings along: a method may answer with anything, or fail.
**Nothing that it answers gets through unchecked, and nothing else keeps it from getting through**
(`providerAnswers_checked`).  A complaint about a number quotes the answer, and an answer that cannot
be quoted fails for that reason instead (`providerAnswers_unquotable`).  A provider that does what a
definition says cannot be told from the definition, its failures included (`ofDefinition_delegates`).

* `ProviderQuestion` — what the four calls differ in: the method that is asked and the answers that
  are allowed.
* `ProviderQuestion.Answered` — the laws of such a call, in the order in which it looks at things:
  the provider, the argument, the method, its answer.  `ProviderQuestion.answered` is the one proof
  for all four; `ProviderQuestion.Answered.eq` says that the laws determine the outcome.
* `DelegatesTo` — a provider that agrees with a definition about an argument, in all four calls.
-/

namespace BusinessCalendar

/-- A call fails with a fault, which is raised under a kind and a code. -/
def Raises {α : Type} (x : Outcome α) (f : Fault) (kind : ErrorKind) (code : Option DiagnosticCode) :
    Prop :=
  x = .error f ∧ f.kind = kind ∧ f.code? = code

/-! ## What is a provider -/

/-- A thing lacks a method of the protocol exactly when it is no provider. -/
lemma QuarterMethods.provider?_eq_none_iff {p : QuarterMethods Value} :
    p.provider? = none ↔ p.quarter? = none ∨ p.quarterStart? = none ∨ p.quarterStop? = none ∨
      p.startMonth? = none := by
  obtain ⟨kindName, quoted, quarter, quarterStart, quarterStop, startMonth⟩ := p
  cases quarter <;> cases quarterStart <;> cases quarterStop <;> cases startMonth <;>
    simp [provider?]

namespace Call

variable {function : String} {provider : Value} {p : QuarterProvider}

lemma requireProvider_null (function : String) :
    requireProvider function .null = .error (.cause (.providerMissing function "provider")) := rfl

lemma requireProvider_eq_ok (h : provider.asQuarterProvider? = some p) :
    requireProvider function provider = .ok p := by
  cases provider with
  | null => cases h
  | _ => simp only [requireProvider, h]

lemma requireProvider_eq_error (hnull : provider ≠ .null)
    (h : provider.asQuarterProvider? = none) :
    requireProvider function provider =
      .error (.notAProvider "QuarterProvider" provider.kindName) := by
  cases provider with
  | null => exact absurd rfl hnull
  | _ => simp only [requireProvider, h]

lemma requireProvider_eq_ok_iff :
    requireProvider function provider = .ok p ↔ provider.asQuarterProvider? = some p := by
  constructor
  · intro h
    cases hasked : provider.asQuarterProvider? with
    | none =>
      by_cases hnull : provider = .null
      · rw [hnull, requireProvider_null] at h
        cases h
      · rw [requireProvider_eq_error hnull hasked] at h
        cases h
    | some q =>
      rw [requireProvider_eq_ok hasked] at h
      rw [Except.ok.inj h]
  · exact requireProvider_eq_ok

/-- The index of a quarter, as the number that was given. -/
def quarterIndex (v : Value) : Outcome Numeral := do
  let n ← v.requireInt "quarter"
  let _ ← checkQuarter "quarter" n
  return n

lemma startMonthOfProvider_eq (v provider : Value) :
    startMonthOfProvider v provider = (do
      let p ← requireProvider "start_month_of_provider" provider
      let n ← quarterIndex v
      checkedNumber "get_start_month_from_quarter" 1 12 (← p.startMonth n)) := by
  simp only [startMonthOfProvider, quarterIndex, bind_assoc, pure_bind]

end Call

/-! ## Questions to a provider -/

/-- What can be asked of a provider: on behalf of a function, about an argument, by one of its
methods.  Some answers are allowed, each as a value of the domain; the others are refused with a
complaint, if there are words for it. -/
structure ProviderQuestion (α β : Type) where
  function : String
  argument : Value → Outcome α
  method : QuarterProvider → α → Outcome Value
  allowed : Value → β → Prop
  complaint : Value → Except WordingFault Fault
  refusalKind : ErrorKind
  refusalCode : Option DiagnosticCode

namespace ProviderQuestion

variable {α β : Type}

/-- The laws of a call that puts a question about an argument to a provider, with `x` as its
outcome. -/
structure Answered (q : ProviderQuestion α β) (v provider : Value) (x : Outcome β) : Prop where
  /-- No provider, whatever the argument. -/
  missing : provider = .null →
    Raises x (.cause (.providerMissing q.function "provider")) .providerMissing (some .providerMissing)
  /-- Something else in place of a provider, whatever the argument. -/
  notProvider : provider ≠ .null → provider.asQuarterProvider? = none →
    Raises x (.notAProvider "QuarterProvider" provider.kindName) .type none
  /-- An argument that fails its check, whatever the methods of the provider are. -/
  argument_first : ∀ p f, provider.asQuarterProvider? = some p → q.argument v = .error f → x = .error f
  /-- A failure of the method passes through. -/
  failure : ∀ p a f, provider.asQuarterProvider? = some p → q.argument v = .ok a →
    q.method p a = .error f → x = .error f
  /-- An allowed answer is the outcome of the call, and nothing else is. -/
  eq_ok_iff : ∀ b, x = .ok b ↔
    ∃ p a r, provider.asQuarterProvider? = some p ∧ q.argument v = .ok a ∧ q.method p a = .ok r ∧
      q.allowed r b
  /-- Any other answer is refused with the complaint about it. -/
  refused : ∀ p a r f, provider.asQuarterProvider? = some p → q.argument v = .ok a →
    q.method p a = .ok r → (∀ b, ¬q.allowed r b) → q.complaint r = .ok f →
      Raises x f q.refusalKind q.refusalCode
  /-- Where there are no words for the complaint, the call fails for that reason. -/
  unworded : ∀ p a r w, provider.asQuarterProvider? = some p → q.argument v = .ok a →
    q.method p a = .ok r → (∀ b, ¬q.allowed r b) → q.complaint r = .error w →
      Raises x (.wording w) w.kind none

section Answered

variable {q : ProviderQuestion α β} {v provider : Value}

/-- **A call that looks at the provider, then at the argument, then asks and checks** has the laws, if
its check lets through what is allowed and refuses the rest. -/
theorem answered {x : Outcome β} {check : Value → Outcome β}
    (hx : x = (do
      let p ← Call.requireProvider q.function provider
      let a ← q.argument v
      check (← q.method p a)))
    (hallowed : ∀ r b, check r = .ok b ↔ q.allowed r b)
    (hrefused : ∀ r, (∀ b, ¬q.allowed r b) → check r = liftM (q.complaint r) >>= .error)
    (hcomplaint : ∀ r f, q.complaint r = .ok f → f.kind = q.refusalKind ∧ f.code? = q.refusalCode) :
    q.Answered v provider x := by
  subst hx
  constructor
  case missing =>
    rintro rfl
    rw [Call.requireProvider_null, error_bind]
    exact ⟨rfl, rfl, rfl⟩
  case notProvider =>
    intro hnull hnone
    rw [Call.requireProvider_eq_error hnull hnone, error_bind]
    exact ⟨rfl, rfl, rfl⟩
  case argument_first =>
    intro p f hp hargument
    rw [Call.requireProvider_eq_ok hp, ok_bind, hargument, error_bind]
  case failure =>
    intro p a f hp hargument hmethod
    rw [Call.requireProvider_eq_ok hp, ok_bind, hargument, ok_bind, hmethod, error_bind]
  case eq_ok_iff =>
    intro b
    simp only [bind_eq_ok_iff, Call.requireProvider_eq_ok_iff, hallowed]
    constructor
    · rintro ⟨p, hp, a, ha, r, hr, hb⟩
      exact ⟨p, a, r, hp, ha, hr, hb⟩
    · rintro ⟨p, a, r, hp, ha, hr, hb⟩
      exact ⟨p, hp, a, ha, r, hr, hb⟩
  case refused =>
    intro p a r f hp hargument hmethod hnone hf
    rw [Call.requireProvider_eq_ok hp, ok_bind, hargument, ok_bind, hmethod, ok_bind,
      hrefused r hnone, hf]
    exact ⟨rfl, hcomplaint r f hf⟩
  case unworded =>
    intro p a r w hp hargument hmethod hnone hw
    rw [Call.requireProvider_eq_ok hp, ok_bind, hargument, ok_bind, hmethod, ok_bind,
      hrefused r hnone, hw]
    exact ⟨rfl, rfl, rfl⟩

/-- **The laws leave nothing open**: there is one outcome that obeys them. -/
theorem Answered.eq {x y : Outcome β} (hx : q.Answered v provider x) (hy : q.Answered v provider y) :
    x = y := by
  -- one case for each place where such a call can end
  cases hp : provider.asQuarterProvider? with
  | none =>
    by_cases hnull : provider = .null
    · rw [(hx.missing hnull).1, (hy.missing hnull).1]
    · rw [(hx.notProvider hnull hp).1, (hy.notProvider hnull hp).1]
  | some p =>
    cases hargument : q.argument v with
    | error f => rw [hx.argument_first p f hp hargument, hy.argument_first p f hp hargument]
    | ok a =>
      cases hmethod : q.method p a with
      | error f => rw [hx.failure p a f hp hargument hmethod, hy.failure p a f hp hargument hmethod]
      | ok r =>
        by_cases hallowed : ∃ b, q.allowed r b
        · obtain ⟨b, hb⟩ := hallowed
          rw [(hx.eq_ok_iff b).2 ⟨p, a, r, hp, hargument, hmethod, hb⟩,
            (hy.eq_ok_iff b).2 ⟨p, a, r, hp, hargument, hmethod, hb⟩]
        · have hnone := not_exists.1 hallowed
          cases hcomplaint : q.complaint r with
          | ok f =>
            rw [(hx.refused p a r f hp hargument hmethod hnone hcomplaint).1,
              (hy.refused p a r f hp hargument hmethod hnone hcomplaint).1]
          | error w =>
            rw [(hx.unworded p a r w hp hargument hmethod hnone hcomplaint).1,
              (hy.unworded p a r w hp hargument hmethod hnone hcomplaint).1]

end Answered

/-- A question that is to be answered with an integer in range.  A yes or a no is none. -/
def number (function : String) (argument : Value → Outcome α)
    (method : QuarterProvider → α → Outcome Value) (name : String) (minimum maximum : Int) :
    ProviderQuestion α Numeral where
  function
  argument
  method
  allowed r n := r = .number n ∧ minimum ≤ n.value ∧ n.value ≤ maximum
  complaint r := do
    return .cause (.providerResultOutOfRange name (← r.literal) minimum maximum)
  refusalKind := .range
  refusalCode := some .providerResultOutOfRange

/-- A question that is to be answered with a date, with or without a time of day. -/
def date (function : String) (method : QuarterProvider → Moment → Outcome Value) (name : String) :
    ProviderQuestion Moment Moment where
  function
  argument v := v.requireDate "value"
  method
  allowed r m := r = .moment m
  complaint r := .ok (.notADate name r.kindName)
  refusalKind := .type
  refusalCode := none

/-- In which quarter is a date? -/
def quarter : ProviderQuestion Moment Numeral :=
  number "quarter_of_provider" (Value.requireDate "value") (·.quarter) "get_quarter" 1 4

/-- When does the quarter of a date start? -/
def quarterStart : ProviderQuestion Moment Moment :=
  date "quarter_start_of_provider" (·.quarterStart) "get_quarter_start"

/-- When does the quarter of a date end? -/
def quarterStop : ProviderQuestion Moment Moment :=
  date "quarter_end_of_provider" (·.quarterStop) "get_quarter_end"

/-- In which month does a quarter start? -/
def startMonth : ProviderQuestion Numeral Numeral :=
  number "start_month_of_provider" Call.quarterIndex (·.startMonth) "get_start_month_from_quarter" 1 12

/-- What a number out of range, or something else in place of one, is refused with. -/
lemma checkedNumber_refusal {method text : String} {minimum maximum : Int}
    (hminimum : (Numeral.plain minimum).Writable) (hmaximum : (Numeral.plain maximum).Writable) :
    (raise (.providerResultOutOfRange method text minimum maximum) : Outcome Numeral) =
      .error (.cause (.providerResultOutOfRange method text minimum maximum)) := by
  have hwritable : Cause.Writable (.providerResultOutOfRange method text minimum maximum) :=
    List.forall_mem_cons.2 ⟨hminimum, List.forall_mem_singleton.2 hmaximum⟩
  rw [raise, Cause.fault_eq hwritable]

section CheckedNumber

variable {method : String} {minimum maximum : Int} {r : Value}

lemma checkedNumber_eq_ok_iff {n : Numeral} :
    Call.checkedNumber method minimum maximum r = .ok n ↔
      r = .number n ∧ minimum ≤ n.value ∧ n.value ≤ maximum := by
  have hraise : ∀ text, (raise (.providerResultOutOfRange method text minimum maximum) :
      Outcome Numeral) ≠ .ok n := fun _ => nofun
  cases r with
  | number m =>
    by_cases hm : minimum ≤ m.value ∧ m.value ≤ maximum
    · rw [Call.checkedNumber, if_pos hm, Except.ok.injEq, Value.number.injEq]
      exact ⟨fun heq => ⟨heq, heq ▸ hm⟩, And.left⟩
    · rw [Call.checkedNumber, if_neg hm]
      refine iff_of_false (fun h => ?_) fun ⟨heq, hrange⟩ => hm (Value.number.inj heq ▸ hrange)
      obtain ⟨text, -, hok⟩ := bind_eq_ok_iff.1 h
      exact hraise text hok
  | _ =>
    refine iff_of_false (fun h => ?_) fun ⟨heq, _⟩ => nomatch heq
    obtain ⟨text, -, hok⟩ := bind_eq_ok_iff.1 h
    exact hraise text hok

/-- Any other answer is quoted in a complaint, if it can be. -/
lemma checkedNumber_eq_refusal
    (h : ∀ n, ¬(r = .number n ∧ minimum ≤ n.value ∧ n.value ≤ maximum)) :
    Call.checkedNumber method minimum maximum r = (do
      raise (.providerResultOutOfRange method (← r.literal) minimum maximum)) := by
  cases r with
  | number n => rw [Call.checkedNumber, if_neg fun hn => h n ⟨rfl, hn⟩]
  | _ => rfl

end CheckedNumber

lemma checkedDate_eq_ok_iff {method : String} {r : Value} {m : Moment} :
    Call.checkedDate method r = .ok m ↔ r = .moment m := by
  cases r <;> simp [Call.checkedDate]

lemma checkedDate_eq_error {method : String} {r : Value} (h : ∀ m, r ≠ .moment m) :
    Call.checkedDate method r = .error (.notADate method r.kindName) := by
  cases r with
  | moment m => exact absurd rfl (h m)
  | _ => rfl

lemma number_answered {function name : String} {argument : Value → Outcome α}
    {method : QuarterProvider → α → Outcome Value} {minimum maximum : Int} {v provider : Value}
    {x : Outcome Numeral}
    (hx : x = (do
      let p ← Call.requireProvider function provider
      let a ← argument v
      Call.checkedNumber name minimum maximum (← method p a)))
    (hminimum : (Numeral.plain minimum).Writable) (hmaximum : (Numeral.plain maximum).Writable) :
    (number function argument method name minimum maximum).Answered v provider x := by
  refine answered hx (fun r b => checkedNumber_eq_ok_iff) (fun r hnone => ?_) fun r f hf => ?_
  · rw [checkedNumber_eq_refusal hnone]
    simp only [number]
    cases r.literal with
    | error w => rfl
    | ok text => exact checkedNumber_refusal hminimum hmaximum
  · obtain ⟨text, -, heq⟩ := bind_eq_ok_iff.1 hf
    cases heq
    exact ⟨rfl, Fault.code?_cause _⟩

lemma date_answered {function name : String} {method : QuarterProvider → Moment → Outcome Value}
    {v provider : Value} {x : Outcome Moment}
    (hx : x = (do
      let p ← Call.requireProvider function provider
      let m ← v.requireDate "value"
      Call.checkedDate name (← method p m))) :
    (date function method name).Answered v provider x := by
  refine answered hx (fun r b => checkedDate_eq_ok_iff) (fun r hnone => ?_) fun r f hf => ?_
  · exact checkedDate_eq_error hnone
  · cases hf
    exact ⟨rfl, rfl⟩

end ProviderQuestion

/-! ## Providers that delegate -/

/-- The methods of a provider, on a thing of some kind. -/
def QuarterProvider.methods (p : QuarterProvider) (kindName : String) : QuarterMethods Value where
  kindName
  quarter? := some p.quarter
  quarterStart? := some p.quarterStart
  quarterStop? := some p.quarterStop
  startMonth? := some p.startMonth

lemma QuarterProvider.provider?_methods (p : QuarterProvider) (kindName : String) :
    (p.methods kindName).provider? = some p := rfl

/-- A provider and a definition give the same answers about an argument, and fail for the same
reasons. -/
structure DelegatesTo (v provider definition : Value) : Prop where
  quarter : Call.quarterOfProvider v provider = (Call.quarterOf v definition).map .plain
  quarterStart : Call.quarterStartOfProvider v provider =
    (Call.resolveQuarter v definition).map fun q => .ofDate q.start
  quarterStop : Call.quarterEndOfProvider v provider =
    (Call.resolveQuarter v definition).map fun q => .ofDate q.stop
  startMonth : Call.startMonthOfProvider v provider =
    (Call.startMonthOfQuarter v definition).map .plain

section Delegation

variable {provider definition : Value} {a : Anchor}

namespace Call

/-- A number in range gets through. -/
lemma checkedNumber_int {method : String} {minimum maximum n : Int}
    (h : minimum ≤ n ∧ n ≤ maximum) :
    checkedNumber method minimum maximum (.int n) = .ok (.plain n) :=
  ProviderQuestion.checkedNumber_eq_ok_iff.2 ⟨rfl, h⟩

/-- Asking for a bound of the quarter of a date is resolving the date and keeping that bound. -/
lemma checkedDate_resolveQuarter (h : definition.anchor? = some a) (method : String)
    (bound : Quarter → Date) (v : Value) :
    (do
      let m ← v.requireDate "value"
      checkedDate method
        (← (do return .date (bound (← resolveQuarter (.moment m) definition)) : Outcome Value))) =
      (resolveQuarter v definition).map fun q => .ofDate (bound q) := by
  simp only [resolveQuarter, anchorFor_eq_ok h, ok_bind]
  cases v.requireDate "value" with
  | error f => rfl
  | ok m =>
    simp only [ok_bind, Value.requireDate_moment]
    cases Quarter.resolve m.date a with
    | error c => rfl
    | ok q => rfl

end Call

/-- **A provider whose methods do what a definition says** cannot be told from it: the quarters and
the months that a definition gives are always in range. -/
theorem ofDefinition_delegates (h : definition.anchor? = some a)
    (hp : provider.asQuarterProvider? = some (.ofDefinition definition)) (v : Value) :
    DelegatesTo v provider definition := by
  constructor
  case quarter =>
    simp only [Call.quarterOfProvider, Call.quarterOf, Call.requireProvider_eq_ok hp,
      Call.anchorFor_eq_ok h, ok_bind]
    cases v.requireDate "value" with
    | error f => rfl
    | ok m =>
      simp only [ok_bind, QuarterProvider.ofDefinition, Call.quarterOf_moment h, pure_eq_ok]
      exact Call.checkedNumber_int (a.locate_index m.date.toYearMonthDay)
  case quarterStart =>
    rw [Call.quarterStartOfProvider, Call.requireProvider_eq_ok hp]
    exact Call.checkedDate_resolveQuarter h "get_quarter_start" (·.start) v
  case quarterStop =>
    rw [Call.quarterEndOfProvider, Call.requireProvider_eq_ok hp]
    exact Call.checkedDate_resolveQuarter h "get_quarter_end" (·.stop) v
  case startMonth =>
    rw [Call.startMonthOfProvider_eq, Call.requireProvider_eq_ok hp, ok_bind, Call.quarterIndex,
      Call.startMonthOfQuarter, Call.anchorFor_eq_ok h, ok_bind, Value.requireQuarter]
    cases v.requireInt "quarter" with
    | error f => rfl
    | ok n =>
      simp only [ok_bind]
      cases hn : checkQuarter "quarter" n with
      | error c => rfl
      | ok q =>
        obtain ⟨hrange, rfl⟩ := checkQuarter_eq_ok_iff.1 hn
        simp only [liftM_ok, ok_bind, pure_eq_ok, QuarterProvider.ofDefinition,
          Call.startMonthOfQuarter_eq h hrange]
        exact Call.checkedNumber_int (a.startMonth_bounds n.value)

end Delegation

/-- **What a provider answers is checked.**  Each of the four calls obeys the laws of its question,
whatever the argument and whatever stands in place of the provider; a thing without one of the methods
is no provider; and a provider that delegates to a definition agrees with it.  An answer that is
refused is reported under the code of the question where it can be quoted, and fails as its quotation
does where it cannot. -/
theorem providerAnswers_checked (v provider : Value) :
    ProviderQuestion.quarter.Answered v provider (Call.quarterOfProvider v provider) ∧
      ProviderQuestion.quarterStart.Answered v provider (Call.quarterStartOfProvider v provider) ∧
      ProviderQuestion.quarterStop.Answered v provider (Call.quarterEndOfProvider v provider) ∧
      ProviderQuestion.startMonth.Answered v provider (Call.startMonthOfProvider v provider) ∧
      (∀ p identity, provider = .quarterProvider p identity →
        (provider.asQuarterProvider? = none ↔
          p.quarter? = none ∨ p.quarterStart? = none ∨ p.quarterStop? = none ∨
            p.startMonth? = none)) ∧
      ∀ definition a, definition.anchor? = some a →
        provider.asQuarterProvider? = some (.ofDefinition definition) →
          DelegatesTo v provider definition := by
  refine ⟨?quarter, ?quarterStart, ?quarterStop, ?startMonth, ?methods, ?delegation⟩
  case quarter => exact ProviderQuestion.number_answered rfl (by decide) (by decide)
  case quarterStart => exact ProviderQuestion.date_answered rfl
  case quarterStop => exact ProviderQuestion.date_answered rfl
  case startMonth =>
    exact ProviderQuestion.number_answered (Call.startMonthOfProvider_eq v provider) (by decide)
      (by decide)
  case methods =>
    rintro p identity rfl
    exact QuarterMethods.provider?_eq_none_iff
  case delegation => exact fun _ _ h hp => ofDefinition_delegates h hp v

/-- A thing with the methods of an anchor in late November, asked about the first day of the calendar:
the quarter of that day started before there were dates, and both ways fail alike. -/
theorem providerAnswers_checked_lateNovember :
    (Value.ofAnchor .lateNovember).anchor? = some .lateNovember ∧
      DelegatesTo (.date (.ofDay 0 (by decide)))
        (.quarterProvider ((QuarterProvider.ofDefinition (.ofAnchor .lateNovember)).methods "Delegate") 0)
        (.ofAnchor .lateNovember) := by
  obtain ⟨-, -, -, -, -, hdelegates⟩ := providerAnswers_checked (.date (.ofDay 0 (by decide)))
    (.quarterProvider ((QuarterProvider.ofDefinition (.ofAnchor .lateNovember)).methods "Delegate") 0)
  exact ⟨rfl, hdelegates _ _ rfl (QuarterProvider.provider?_methods _ _)⟩

/-- A provider with one answer to everything. -/
def QuarterProvider.constant (answer : Value) : QuarterProvider where
  quarter _ := .ok answer
  quarterStart _ := .ok answer
  quarterStop _ := .ok answer
  startMonth _ := .ok answer

namespace Call

lemma quarterOfProvider_constant (m : Moment) (answer : Value) (kindName : String) :
    quarterOfProvider (.moment m)
        (.quarterProvider ((QuarterProvider.constant answer).methods kindName) 0) =
      checkedNumber "get_quarter" 1 4 answer := rfl

/-- A number that is too long to be quoted is out of range, and the complaint about it fails. -/
lemma checkedNumber_eq_wording {method : String} {minimum maximum : Int} {n : Numeral}
    (hrange : minimum ≤ n.value ∧ n.value ≤ maximum → n.value.natAbs < 10 ^ 8)
    (hlong : ¬n.Writable) :
    checkedNumber method minimum maximum (.number n) = .error (.wording .tooManyDigits) := by
  have hout : ¬(minimum ≤ n.value ∧ n.value ≤ maximum) := fun h =>
    hlong (Numeral.writable_of_natAbs_lt (hrange h))
  rw [checkedNumber, if_neg hout, Value.literal, Numeral.written, if_neg hlong]
  rfl

/-- So does the check of a quarter that is too long. -/
lemma quarterIndex_eq_wording {n : Numeral} (hlong : ¬n.Writable) :
    quarterIndex (.number n) = .error (.wording .tooManyDigits) := by
  have hout : ¬(1 ≤ n.value ∧ n.value ≤ 4) := fun h =>
    hlong (Numeral.writable_of_natAbs_lt (by omega))
  have hcause : ¬Cause.Writable (.quarterOutOfRange "quarter" n) := fun h =>
    hlong (List.forall_mem_singleton.1 h)
  rw [quarterIndex, Value.requireInt_number, ok_bind, checkQuarter, if_neg hout, liftM_error,
    Cause.fault_eq_wording hcause, error_bind]

end Call

/-- An answer of 4301 digits and an answer that fails to be quoted are refused under no code, and so is
a quarter of 4301 digits. -/
theorem providerAnswers_unquotable :
    (∃ f, Call.quarterOfProvider (.date (.ofDay 0 (by decide)))
        (.quarterProvider ((QuarterProvider.constant (.int (10 ^ 4300))).methods "Constant") 0) =
          .error f ∧ f.kind = .value ∧ f.code? = none) ∧
      (∃ f, Call.quarterOfProvider (.date (.ofDay 0 (by decide)))
        (.quarterProvider ((QuarterProvider.constant
          (.object 0 (.error (.foreign "RuntimeError" "")))).methods "Constant") 0) =
          .error f ∧ f.kind = .foreign "RuntimeError" ∧ f.code? = none) ∧
      ∃ f, Call.startMonthOfProvider (.int (10 ^ 4300))
        (.quarterProvider ((QuarterProvider.constant (.int 1)).methods "Constant") 0) =
          .error f ∧ f.kind = .value ∧ f.code? = none := by
  have hlong : ¬(Numeral.plain (10 ^ 4300)).Writable := Numeral.not_writable_pow
  refine ⟨⟨.wording .tooManyDigits, ?_, rfl, rfl⟩,
    ⟨.wording (.foreign "RuntimeError" ""), ?_, rfl, rfl⟩, .wording .tooManyDigits, ?_, rfl, rfl⟩
  · rw [Value.date, Call.quarterOfProvider_constant]
    exact Call.checkedNumber_eq_wording (fun h => by omega) hlong
  · rfl
  · have hprovider : (Value.quarterProvider
        ((QuarterProvider.constant (.int 1)).methods "Constant") 0).asQuarterProvider? =
          some (.constant (.int 1)) := QuarterProvider.provider?_methods _ _
    rw [Call.startMonthOfProvider_eq, Call.requireProvider_eq_ok hprovider, ok_bind, Value.int,
      Call.quarterIndex_eq_wording hlong, error_bind]

end BusinessCalendar
