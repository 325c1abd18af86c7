import BusinessCalendar.Proofs.Quarter.Provider

/-!
# Refusing the custom definition

Nine calls resolve quarters by a definition.  Each of them looks at the definition before all else, so
that it does with a definition what it does with the anchor that the definition comes down to
(`QuarterCall.answer_eq`).  The custom definition comes down to none: **it is refused whatever the other
arguments are, and nothing else is refused in this way** (`customDefinition_refused`).  The refusal names
the function that looks at the definition.  The first and the last occurrence in a quarter leave that to
the n-th occurrence and are not named themselves (`customDefinition_misnamed`).

* `FailsWith` — what all failures of an outcome have in common; `FailsWith.bind` and its kin follow it
  through the steps of a call.
* `QuarterCall` — the nine calls.
-/

namespace BusinessCalendar

/-! ## What outcomes fail with -/

/-- All failures of an outcome have a property. -/
def FailsWith {ε α : Type} (p : ε → Prop) (x : Except ε α) : Prop := ∀ e, x = .error e → p e

namespace FailsWith

section Steps

variable {ε α β : Type} {p : ε → Prop} {x : Except ε α}

lemma ok (a : α) : FailsWith p (.ok a : Except ε α) := nofun

lemma error {e : ε} (h : p e) : FailsWith p (.error e : Except ε α) := by
  rintro _ ⟨⟩
  exact h

lemma bind {g : α → Except ε β} (hx : FailsWith p x) (hg : ∀ a, FailsWith p (g a)) :
    FailsWith p (x >>= g) := by
  intro e he
  rcases bind_eq_error_iff.1 he with h | ⟨a, -, h⟩
  · exact hx e h
  · exact hg a e h

lemma map (hx : FailsWith p x) (r : α → β) : FailsWith p (x.map r) := by
  cases x with
  | ok a => exact ok (r a)
  | error e => exact error (hx e rfl)

lemma ite {c : Prop} [Decidable c] {y : Except ε α} (hx : FailsWith p x) (hy : FailsWith p y) :
    FailsWith p (if c then x else y) := by
  split
  · exact hx
  · exact hy

lemma mapM {f : β → Except ε α} (h : ∀ b, FailsWith p (f b)) (bs : List β) :
    FailsWith p (bs.mapM f) := by
  induction bs with
  | nil => exact ok []
  | cons b bs ih =>
    rw [List.mapM_cons]
    exact (h b).bind fun a => ih.bind fun as => ok (a :: as)

end Steps

end FailsWith

/-- A failure that is about the arguments as they are: one has a wrong type, or something is out of
range, even so far that it cannot be put into words. -/
def Fault.AboutArguments (f : Fault) : Prop := f.kind = .type ∨ f.kind = .range ∨ f.kind = .value

/-- A cause that is about a range. -/
def CauseOf.AboutRange {ν τ : Type} (c : CauseOf ν τ) : Prop := c.kind = .range

lemma Cause.fault_aboutArguments {c : Cause} (h : c.AboutRange) : c.fault.AboutArguments := by
  by_cases hwritable : c.Writable
  · rw [Fault.AboutArguments, fault_kind hwritable]
    exact .inr (.inl h)
  · rw [Fault.AboutArguments, fault_eq_wording hwritable]
    exact .inr (.inr rfl)

lemma FailsWith.lift {α : Type} {x : Except Cause α} (h : FailsWith CauseOf.AboutRange x) :
    FailsWith Fault.AboutArguments (liftM x : Outcome α) := by
  intro f hf
  obtain ⟨c, hc, rfl⟩ := liftM_eq_error_iff.1 hf
  exact c.fault_aboutArguments (h c hc)

/-! ## Checks and computations -/

section Checks

variable (argument : String)

lemma checkYear_failsWith (n : Numeral) : FailsWith CauseOf.AboutRange (checkYear argument n) :=
  .ite (.ok _) (.error rfl)

lemma checkQuarter_failsWith (n : Numeral) :
    FailsWith CauseOf.AboutRange (checkQuarter argument n) :=
  .ite (.ok _) (.error rfl)

namespace Value

lemma requireInt_failsWith (v : Value) : FailsWith Fault.AboutArguments (v.requireInt argument) := by
  cases v with
  | number n => exact .ok n
  | _ => exact .error (.inl rfl)

lemma requireDate_failsWith (v : Value) :
    FailsWith Fault.AboutArguments (v.requireDate argument) := by
  cases v with
  | moment m => exact .ok m
  | _ => exact .error (.inl rfl)

lemma requireYear_failsWith (v : Value) :
    FailsWith Fault.AboutArguments (v.requireYear argument) :=
  (v.requireInt_failsWith argument).bind fun n => .lift (checkYear_failsWith argument n)

lemma requireQuarter_failsWith (v : Value) :
    FailsWith Fault.AboutArguments (v.requireQuarter argument) :=
  (v.requireInt_failsWith argument).bind fun n => .lift (checkQuarter_failsWith argument n)

lemma requireWeekday_failsWith (v : Value) :
    FailsWith Fault.AboutArguments (v.requireWeekday argument) := by
  cases v with
  | number n =>
    rw [requireWeekday_number]
    cases Weekday.ofIndex? n.value with
    | some w => exact .ok w
    | none => exact .error (Cause.fault_aboutArguments rfl)
  | _ => exact .error (.inl rfl)

end Value

end Checks

section Computations

variable (a : Anchor) (year quarter : Int)

lemma Date.atDay_failsWith (n : Int) : FailsWith CauseOf.AboutRange (atDay n) :=
  fun _ => atDay_error_kind

lemma Anchor.boundary_failsWith : FailsWith CauseOf.AboutRange (a.boundary year quarter) := by
  intro c hc
  rw [boundary_eq_error hc]
  rfl

lemma Date.quarterStart_failsWith : FailsWith CauseOf.AboutRange (quarterStart year quarter a) :=
  (a.boundary_failsWith year quarter).bind atDay_failsWith

lemma Date.quarterEnd_failsWith : FailsWith CauseOf.AboutRange (quarterEnd year quarter a) :=
  (a.boundary_failsWith year (quarter + 1)).bind fun next => atDay_failsWith (next - 1)

namespace Quarter

lemma ofIndex_failsWith : FailsWith CauseOf.AboutRange (ofIndex year quarter a) :=
  fun _ => ofIndex_error_kind

lemma ofYear_failsWith : FailsWith CauseOf.AboutRange (ofYear year a) :=
  .mapM (fun quarter => ofIndex_failsWith a year quarter) _

lemma resolve_failsWith (d : Date) : FailsWith CauseOf.AboutRange (resolve d a) :=
  fun _ => resolve_error_kind

lemma nthOccurrence_failsWith (q : Quarter) (w : Weekday) (k : Numeral) :
    FailsWith CauseOf.AboutRange (q.nthOccurrence w k) :=
  .bind (.ite (.ok _) (.error rfl)) Date.atDay_failsWith

end Quarter

end Computations

/-! ## The calls -/

/-- A call that resolves quarters by a definition, with its other arguments. -/
inductive QuarterCall where
  | resolve (value : Value)
  | index (value : Value)
  | start (year quarter : Value)
  | stop (year quarter : Value)
  | startMonth (quarter : Value)
  | ofYear (year : Value)
  | nth (year quarter weekday occurrence : Value)
  | first (year quarter weekday : Value)
  | last (year quarter weekday : Value)

namespace QuarterCall

/-- The name of the function that is called. -/
def name : QuarterCall → String
  | resolve .. => "resolve_quarter"
  | index .. => "quarter_of"
  | start .. => "quarter_start"
  | stop .. => "quarter_end"
  | startMonth .. => "start_month_of_quarter"
  | ofYear .. => "quarters_of_year"
  | nth .. => "nth_occurrence_in_quarter"
  | first .. => "first_occurrence_in_quarter"
  | last .. => "last_occurrence_in_quarter"

def answer (definition : Value) : QuarterCall → Outcome Value
  | resolve value => (Call.resolveQuarter value definition).map .ofQuarter
  | index value => (Call.quarterOf value definition).map .int
  | start year quarter => (Call.quarterStart year quarter definition).map .date
  | stop year quarter => (Call.quarterEnd year quarter definition).map .date
  | startMonth quarter => (Call.startMonthOfQuarter quarter definition).map .int
  | ofYear year => Call.quartersOfYear year definition
  | nth year quarter weekday occurrence =>
    (Call.nthInQuarter year quarter weekday occurrence definition).map .date
  | first year quarter weekday =>
    (Call.firstInQuarter year quarter weekday definition).map .date
  | last year quarter weekday => (Call.lastInQuarter year quarter weekday definition).map .date

/-- The call is answered by the n-th occurrence in a quarter, of which it is a case. -/
def AsksNth : QuarterCall → Prop
  | first .. | last .. => True
  | _ => False

/-- The name of the function that looks at the definition. -/
def resolver : QuarterCall → String
  | first year quarter weekday => (nth year quarter weekday (.int 1)).name
  | last year quarter weekday => (nth year quarter weekday (.int (-1))).name
  | call => call.name

variable (call : QuarterCall)

lemma resolver_eq_name_iff : call.resolver = call.name ↔ ¬call.AsksNth := by
  cases call <;> simp [resolver, name, AsksNth]

/-- **A call does with a definition what it does with the anchor of the definition**, and looks at
nothing before. -/
theorem answer_eq (definition : Value) :
    call.answer definition =
      (Call.anchorFor call.resolver definition >>= fun a => call.answer (.ofAnchor a)) := by
  cases call <;>
    simp only [resolver, name, answer, Call.resolveQuarter, Call.quarterOf, Call.quarterStart,
      Call.quarterEnd, Call.startMonthOfQuarter, Call.quartersOfYear, Call.firstInQuarter,
      Call.lastInQuarter, Call.nthInQuarter] <;>
    cases Call.anchorFor _ definition <;> rfl

end QuarterCall

/-! ## With an anchor -/

namespace Call

variable (a : Anchor) (value year quarter weekday occurrence : Value)

lemma anchorFor_ofAnchor (function : String) : anchorFor function (.ofAnchor a) = .ok a := rfl

lemma resolveQuarter_failsWith :
    FailsWith Fault.AboutArguments (resolveQuarter value (.ofAnchor a)) := by
  rw [resolveQuarter, anchorFor_ofAnchor, ok_bind]
  exact (value.requireDate_failsWith _).bind fun m => .lift (Quarter.resolve_failsWith a m.date)

lemma quarterOf_failsWith : FailsWith Fault.AboutArguments (quarterOf value (.ofAnchor a)) := by
  rw [quarterOf, anchorFor_ofAnchor, ok_bind]
  exact (value.requireDate_failsWith _).bind fun m => .ok _

lemma quarterStart_failsWith :
    FailsWith Fault.AboutArguments (quarterStart year quarter (.ofAnchor a)) := by
  rw [quarterStart, anchorFor_ofAnchor, ok_bind]
  exact (year.requireYear_failsWith _).bind fun y =>
    (quarter.requireQuarter_failsWith _).bind fun q => .lift (Date.quarterStart_failsWith a y q)

lemma quarterEnd_failsWith :
    FailsWith Fault.AboutArguments (quarterEnd year quarter (.ofAnchor a)) := by
  rw [quarterEnd, anchorFor_ofAnchor, ok_bind]
  exact (year.requireYear_failsWith _).bind fun y =>
    (quarter.requireQuarter_failsWith _).bind fun q => .lift (Date.quarterEnd_failsWith a y q)

lemma startMonthOfQuarter_failsWith :
    FailsWith Fault.AboutArguments (startMonthOfQuarter quarter (.ofAnchor a)) := by
  rw [startMonthOfQuarter, anchorFor_ofAnchor, ok_bind]
  exact (quarter.requireQuarter_failsWith _).bind fun q => .ok _

lemma quartersOfYear_failsWith :
    FailsWith Fault.AboutArguments (quartersOfYear year (.ofAnchor a)) := by
  rw [quartersOfYear, anchorFor_ofAnchor, ok_bind]
  exact (year.requireYear_failsWith _).bind fun y =>
    (FailsWith.lift (Quarter.ofYear_failsWith a y)).bind fun qs => .ok _

lemma nthInQuarter_failsWith : FailsWith Fault.AboutArguments
    (nthInQuarter year quarter weekday occurrence (.ofAnchor a)) := by
  rw [nthInQuarter, anchorFor_ofAnchor, ok_bind]
  exact (year.requireYear_failsWith _).bind fun y =>
    (quarter.requireQuarter_failsWith _).bind fun q =>
      (FailsWith.lift (Quarter.ofIndex_failsWith a y q)).bind fun span =>
        (weekday.requireWeekday_failsWith _).bind fun w =>
          (occurrence.requireInt_failsWith _).bind fun k => .lift (span.nthOccurrence_failsWith w k)

/-- The anchor of a definition is refused for want of a provider exactly if the definition is the custom
one. -/
lemma anchorFor_refuses_iff (function : String) {definition : Value} :
    (∃ f, anchorFor function definition = .error f ∧ f.kind = .providerRequired) ↔
      definition = .quarterDefinition .custom := by
  constructor
  · rintro ⟨f, hf, hkind⟩
    cases definition with
    | quarterDefinition d =>
      cases d with
      | custom => rfl
      | _ => cases hf
    | anchor => cases hf
    | _ =>
      cases hf
      cases hkind
  · rintro rfl
    exact ⟨_, rfl, rfl⟩

end Call

namespace QuarterCall

variable (call : QuarterCall)

/-- With an anchor, what can go wrong is about the other arguments. -/
lemma answer_ofAnchor_failsWith (a : Anchor) :
    FailsWith Fault.AboutArguments (call.answer (.ofAnchor a)) := by
  cases call with
  | resolve value => exact (Call.resolveQuarter_failsWith a value).map _
  | index value => exact (Call.quarterOf_failsWith a value).map _
  | start year quarter => exact (Call.quarterStart_failsWith a year quarter).map _
  | stop year quarter => exact (Call.quarterEnd_failsWith a year quarter).map _
  | startMonth quarter => exact (Call.startMonthOfQuarter_failsWith a quarter).map _
  | ofYear year => exact Call.quartersOfYear_failsWith a year
  | nth year quarter weekday k => exact (Call.nthInQuarter_failsWith a year quarter weekday k).map _
  | first year quarter weekday => exact (Call.nthInQuarter_failsWith a year quarter weekday _).map _
  | last year quarter weekday => exact (Call.nthInQuarter_failsWith a year quarter weekday _).map _

/-- **A call is refused for want of a provider exactly when its definition is the custom one.** -/
theorem refused_iff {definition : Value} :
    (∃ f, call.answer definition = .error f ∧ f.kind = .providerRequired) ↔
      definition = .quarterDefinition .custom := by
  rw [← Call.anchorFor_refuses_iff call.resolver, answer_eq]
  cases Call.anchorFor call.resolver definition with
  | error f => simp only [error_bind, Except.error.injEq]
  | ok a =>
    refine iff_of_false ?_ ?_
    · rintro ⟨f, hf, hkind⟩
      rcases call.answer_ofAnchor_failsWith a f hf with h | h | h <;> rw [h] at hkind <;> cases hkind
    · rintro ⟨f, hf, -⟩
      cases hf

end QuarterCall

/-! ## The custom definition -/

/-- **The custom definition is refused before anything else.**  Whatever the other arguments of a call
are, it asks for a provider, and the diagnostic names the function that looks at the definition.  That is
the function that was called, but for the first and the last occurrence in a quarter, which leave it to
the n-th.  No other definition is refused in this way, whatever the other arguments are. -/
theorem customDefinition_refused (call : QuarterCall) :
    (∃ d, Raises (call.answer (.quarterDefinition .custom))
        (.cause (.providerRequired call.resolver)) .providerRequired (some .providerRequired) ∧
      (Fault.cause (.providerRequired call.resolver)).report = .diagnosed d ∧
      d.function = some call.resolver ∧ (d.function = some call.name ↔ ¬call.AsksNth)) ∧
    ∀ definition, (∃ f, call.answer definition = .error f ∧ f.kind = .providerRequired) ↔
      definition = .quarterDefinition .custom := by
  have hrefused : call.answer (.quarterDefinition .custom) =
      .error (.cause (.providerRequired call.resolver)) := by
    rw [call.answer_eq]
    rfl
  refine ⟨⟨_, ⟨hrefused, rfl, Fault.code?_cause _⟩, rfl, rfl, ?_⟩, fun definition => call.refused_iff⟩
  rw [← call.resolver_eq_name_iff]
  exact Option.some_inj

/-- The first Monday of a quarter. -/
def QuarterCall.firstMonday : QuarterCall := .first (.int 2024) (.int 1) (.weekday .monday)

/-- The refusal of the first Monday of a quarter does not name the function that was called. -/
theorem customDefinition_misnamed :
    ∃ f d, QuarterCall.firstMonday.answer (.quarterDefinition .custom) = .error f ∧
      f.report = .diagnosed d ∧ QuarterCall.firstMonday.name = "first_occurrence_in_quarter" ∧
      d.function = some "nth_occurrence_in_quarter" ∧
      d.function ≠ some QuarterCall.firstMonday.name :=
  ⟨_, _, rfl, rfl, rfl, rfl, by decide⟩

end BusinessCalendar
