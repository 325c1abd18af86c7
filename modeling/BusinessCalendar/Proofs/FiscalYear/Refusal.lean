import BusinessCalendar.Proofs.FiscalYear.Derivation
import BusinessCalendar.Proofs.FiscalYear.Division

/-!
# Dates outside a fiscal year

All questions about a date in a fiscal year come down to its week, so they refuse a date outside the
year alike, with one cause (`FiscalYear.refusal`).  **The cause quotes the days of the year**; where
the year has no last date to quote, since it goes on after the last representable day, the cause is
that missing date instead (`outsideDates_refused`).

* `FiscalYear.weekIndex_eq_error` — the refusal, for the dates that the year does not hold.
* `FiscalYear.Refuses` — the same failure for every question.
-/

namespace BusinessCalendar

namespace FiscalYear

variable {y : FiscalYear} {d : Date}

lemma not_holdsDay_iff {n : Int} :
    ¬y.HoldsDay n ↔ n < y.start.dayNumber ∨ y.start.dayNumber + 7 * y.weeks ≤ n := by
  rw [HoldsDay, lastDay]
  omega

/-- Why a date outside the year is refused: it is not among the days that are quoted, or there is no
last date to quote. -/
def refusal (y : FiscalYear) (d : Date) : Cause :=
  match y.stop with
  | .ok stop => .dateOutsideFiscalYear d.iso y.start.iso stop.iso
  | .error c => c

lemma refusal_of_stop {stop : Date} (h : y.stop = .ok stop) :
    y.refusal d = .dateOutsideFiscalYear d.iso y.start.iso stop.iso := by
  rw [refusal, h]

lemma refusal_of_maxDay_lt (h : maxDay < y.lastDay) :
    y.refusal d = .dayNumberOutOfRange y.lastDay minDay maxDay := by
  rw [refusal]
  cases hstop : y.stop with
  | ok stop => exact absurd (exists_stop_iff.1 ⟨stop, hstop⟩) (Int.not_le.2 h)
  | error c => exact (Date.atDay_eq_error_iff.1 hstop).2

lemma refusal_kind (y : FiscalYear) (d : Date) : (y.refusal d).kind = .range := by
  rw [refusal]
  cases hstop : y.stop with
  | ok stop => rfl
  | error c => exact Date.atDay_error_kind hstop

lemma refusal_writable (y : FiscalYear) (d : Date) : (y.refusal d).Writable := by
  rw [refusal]
  cases hstop : y.stop with
  | ok stop => exact nofun
  | error c =>
    have hfirst := y.start.representable_dayNumber
    have hweeks : y.weeks = 52 ∨ y.weeks = 53 := y.weeks_cases
    simp only
    rw [(Date.atDay_eq_error_iff.1 hstop).2]
    refine Cause.writable_dayNumberOutOfRange ?_
    simp only [Representable, minDay, maxDay] at hfirst
    rw [lastDay]
    omega

lemma refusal_code_iff :
    (y.refusal d).code = .dateOutsideFiscalYear ↔ y.lastDay ≤ maxDay := by
  constructor
  · intro hcode
    by_contra hlast
    rw [refusal_of_maxDay_lt (Int.not_le.1 hlast)] at hcode
    cases hcode
  · intro hlast
    obtain ⟨stop, hstop⟩ := exists_stop_iff.2 hlast
    rw [refusal_of_stop hstop]
    rfl

/-- **A date outside the year has no week in it**, for that one reason. -/
theorem weekIndex_eq_error (h : ¬y.HoldsDay d.dayNumber) :
    y.weekIndex d = .error (y.refusal d) := by
  have houtside : (d.dayNumber - y.start.dayNumber) / 7 < 0 ∨
      (d.dayNumber - y.start.dayNumber) / 7 ≥ y.weeks := by
    rw [holdsDay_iff] at h
    omega
  simp only [weekIndex, weekIndexOfDay_eq, houtside, if_true, refusal]
  cases y.stop with
  | ok stop => rfl
  | error c => rfl

/-- Every question about a date in the year fails, and fails alike. -/
structure Refuses (y : FiscalYear) (v : Moment) (f : Fault) : Prop where
  week : Call.fiscalWeek y (.moment v) = .error f
  month : Call.fiscalMonth y (.moment v) = .error f
  quarter : Call.fiscalQuarter y (.moment v) = .error f
  quarterStart : Call.fiscalQuarterStart y (.moment v) = .error f
  quarterStop : Call.fiscalQuarterStop y (.moment v) = .error f

lemma refuses_of_not_holdsDay {v : Moment} (h : ¬y.HoldsDay v.dayNumber) :
    y.Refuses v (.cause (y.refusal v.date)) := by
  have hweek : y.weekIndex v.date = .error (y.refusal v.date) := weekIndex_eq_error h
  have hquarter : y.quarterOf v.date = .error (y.refusal v.date) := by
    rw [quarterOf, hweek, error_bind]
  rw [← Cause.fault_eq (y.refusal_writable v.date)]
  constructor
  case week =>
    rw [Call.fiscalWeek, Value.requireDate_moment, ok_bind, weekOf, hweek, error_bind, liftM_error]
  case month =>
    rw [Call.fiscalMonth, Value.requireDate_moment, ok_bind, monthOf, hweek, error_bind,
      liftM_error]
  case quarter => rw [Call.fiscalQuarter_eq, hquarter, liftM_error]
  case quarterStart =>
    rw [Call.fiscalQuarterStart_eq, quarterStart, hquarter, error_bind, liftM_error]
  case quarterStop =>
    rw [Call.fiscalQuarterStop_eq, quarterStop, hquarter, error_bind, liftM_error]

end FiscalYear

/-- **A date outside a fiscal year is refused by every question, for one reason.**  The reason
quotes the date and the first and the last date of the year, and is reported as a date outside the
fiscal year exactly when the year has a last date. -/
theorem outsideDates_refused (y : FiscalYear) (v : Moment)
    (h : v.dayNumber < y.start.dayNumber ∨ y.start.dayNumber + 7 * y.weeks ≤ v.dayNumber) :
    ∃ f, y.Refuses v f ∧ f.kind = .range ∧
      (f.code? = some .dateOutsideFiscalYear ↔ y.lastDay ≤ 3652058) ∧
      (f.code? = some .dayNumberOutOfRange ↔ 3652058 < y.lastDay) ∧
      ∀ stop, y.stop = .ok stop →
        f = .cause (.dateOutsideFiscalYear v.date.iso y.start.iso stop.iso) := by
  refine ⟨.cause (y.refusal v.date), FiscalYear.refuses_of_not_holdsDay
    (FiscalYear.not_holdsDay_iff.2 h), y.refusal_kind v.date, ?_, ?_, ?_⟩
  · rw [Fault.code?_cause, Option.some.injEq]
    exact FiscalYear.refusal_code_iff
  · rw [Fault.code?_cause, Option.some.injEq]
    constructor
    · intro hcode
      by_contra hlast
      rw [FiscalYear.refusal_code_iff.2 (Int.not_lt.1 hlast)] at hcode
      cases hcode
    · intro hlast
      rw [FiscalYear.refusal_of_maxDay_lt hlast]
      rfl
  · intro stop hstop
    rw [FiscalYear.refusal_of_stop hstop]

/-- The day before a long year of the middle of the calendar. -/
theorem outsideDates_refused_dayBefore :
    ∃ f, FiscalYear.longYear.Refuses (.ofDate ⟨⟨2017, 1, 28⟩, by decide⟩) f ∧
      f.code? = some .dateOutsideFiscalYear := by
  obtain ⟨f, hrefused, -, hcode, -⟩ := outsideDates_refused .longYear
    (.ofDate ⟨⟨2017, 1, 28⟩, by decide⟩) (.inl (by decide))
  exact ⟨f, hrefused, hcode.2 (by decide)⟩

/-- The 52 weeks from Sunday, 6 June 9999, on, which the calendar cuts short. -/
def FiscalYear.cutShort : FiscalYear where
  start := { year := 9999, month := 6, day := 6, valid := by decide }
  firstWeekday := .sunday
  long := false
  nominalStart := { year := 9999, month := 6, day := 6, valid := by decide }
  start_weekday := by decide

/-- A date before a fiscal year that is cut short is not reported as outside of it, but as a day
number out of range. -/
theorem outsideDate_misreported :
    (Call.fiscalYear (.date FiscalYear.cutShort.start)).outcome = .ok .cutShort ∧
      ∃ (v : Moment) (f : Fault), v.dayNumber < FiscalYear.cutShort.start.dayNumber ∧
        FiscalYear.cutShort.Refuses v f ∧ f.code? = some .dayNumberOutOfRange := by
  have hlast : maxDay < FiscalYear.cutShort.lastDay := by decide
  have hyear : ¬FiscalYear.cutShort.nominalStart.year < maxYear := by decide
  refine ⟨?_, .ofDate ⟨⟨9999, 1, 1⟩, by decide⟩, _, by decide,
    FiscalYear.refuses_of_not_holdsDay (FiscalYear.not_holdsDay_iff.2 (.inl (by decide))), ?_⟩
  · refine Call.fiscalYear_eq_ok_iff.2 ⟨.sunday, rfl, FiscalYear.derive_eq_ok_iff.2 ⟨?_, ?_⟩⟩
    · exact ⟨rfl, rfl, by decide⟩
    · exact FiscalYear.derivedLong_maxYear hyear
  · rw [FiscalYear.refusal_of_maxDay_lt hlast]
    rfl

end BusinessCalendar
