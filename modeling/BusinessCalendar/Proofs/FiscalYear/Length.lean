import BusinessCalendar.Proofs.FiscalYear.Chain
import BusinessCalendar.Proofs.FiscalYear.Refusal

/-!
# How long a fiscal year is

A fiscal year whose length is not given reaches to the next one: it has a 53rd week when the
nominal date a calendar year later, moved back to the first weekday, is more than 364 days away.
**This holds up to the nominal dates of the last year, and not for these** (`derivedLength_exact`):
where no date is left to measure to, the year has 52 weeks, whatever the line of days beyond the
calendar says.

* `YearMonthDay.alignedNextYear` — the start of the next year, on the unbounded line of days.
* `FiscalYear.derive_long_iff` — the length of a year by its nominal date.
* `FiscalYear.holdsDay_until_next_iff` — whether a year holds its days up to the next start; those
  that it loses are days at the end of the calendar.
-/

namespace BusinessCalendar

/-- The same date a calendar year later, moved back to a weekday; both may be past the calendar. -/
def YearMonthDay.alignedNextYear (d : YearMonthDay) (w : Weekday) : Int :=
  w.weekStart (d.yearsLater 1).dayNumber

lemma Date.alignedNextYear_eq {d : Date} (h : d.year < maxYear) (w : Weekday) :
    d.toYearMonthDay.alignedNextYear w = w.weekStart (d.sameDayNextYear h).dayNumber := by
  have hlater := sameDayNextYear_of_yearsLater h d.toYearMonthDay.yearsLater_zero.symm
  rw [YearMonthDay.alignedNextYear, dayNumber, hlater]

namespace FiscalYear

variable {y : FiscalYear} {start nominal : Date} {w : Weekday}

lemma weeks_eq_53_iff : y.weeks = 53 ↔ y.long = true := by
  rw [weeks]
  cases y.long <;> simp

/-- The 53rd week of a derived length: the next year starts late, and the calendar has its nominal
date. -/
lemma derive_long_iff (h : (derive start nominal w).outcome = .ok y) :
    y.long = true ↔ nominal.year < maxYear ∧
      364 < nominal.toYearMonthDay.alignedNextYear w - y.start.dayNumber := by
  have hlong := (derive_eq_ok_iff.1 h).2
  by_cases hyear : nominal.year < maxYear
  · rw [derivedLong_eq hyear, Except.ok.injEq] at hlong
    rw [← hlong, Date.alignedNextYear_eq hyear]
    simp [hyear]
  · rw [derivedLong_maxYear hyear, Except.ok.injEq] at hlong
    rw [← hlong]
    simp [hyear]

/-- A year that starts with the week of its nominal date holds every date up to the next start,
unless it has been denied a 53rd week that begins within the calendar. -/
lemma holdsDay_until_next_iff (h : (derive nominal nominal w).outcome = .ok y) :
    (∀ v : Moment, y.start.dayNumber ≤ v.dayNumber →
        v.dayNumber < nominal.toYearMonthDay.alignedNextYear w → y.HoldsDay v.dayNumber) ↔
      (nominal.year = maxYear →
        364 < nominal.toYearMonthDay.alignedNextYear w - y.start.dayNumber →
          maxDay < y.start.dayNumber + 364) := by
  have hlong := derive_long_iff h
  have hlast : y.lastDay = y.start.dayNumber + y.weeks * 7 - 1 := rfl
  constructor
  · intro hheld hyear hlate
    -- the first day of the missing week is a date, and it is not held
    by_contra hfits
    have hshort : y.weeks = 52 := by
      rcases y.weeks_cases with hweeks | hweeks
      · exact hweeks
      · exact absurd (hlong.1 (weeks_eq_53_iff.1 hweeks)).1 (by omega)
    have hstart := y.start.representable_dayNumber.1
    obtain ⟨d, hd⟩ := (Date.exists_dayNumber_eq_iff (n := y.start.dayNumber + 364) (by omega)).2
      (by omega)
    have hday := hheld (.ofDate d) (by rw [Moment.dayNumber_ofDate]; omega)
      (by rw [Moment.dayNumber_ofDate]; omega)
    have := hday.2
    rw [Moment.dayNumber_ofDate] at this
    omega
  · intro hend v hlow hnext
    refine ⟨hlow, ?_⟩
    by_cases hyear : nominal.year < maxYear
    · obtain ⟨⟨hweekday, hnominal, -⟩, -⟩ := derive_eq_ok_iff.1 h
      have hcourse := (derive_onCourse h rfl).lastDay_succ
      subst hweekday hnominal
      rw [Date.alignedNextYear_eq hyear, ← hcourse hyear] at hnext
      omega
    · have hmax := nominal.valid.1.2
      have hcalendar := v.representable_dayNumber.2
      have hmissing := hend (by omega)
      rcases y.weeks_cases with hweeks | hweeks
      · by_cases hlate : 364 < nominal.toYearMonthDay.alignedNextYear w - y.start.dayNumber
        · have := hmissing hlate
          omega
        · omega
      · exact absurd (hlong.1 (weeks_eq_53_iff.1 hweeks)).1 hyear

end FiscalYear

/-! ## The call -/

/-- A nominal date as a caller gives it or leaves it out. -/
def Value.ofNominal (nominal : Option Moment) : Value := nominal.elim .null .moment

lemma Call.fiscalYear_derived_eq_ok_iff {v : Moment} {firstWeekday : Value}
    {nominal : Option Moment} {y : FiscalYear} :
    (fiscalYear (.moment v) firstWeekday .null (.ofNominal nominal)).outcome = .ok y ↔
      ∃ w, firstWeekday.requireWeekday "first_weekday" = .ok w ∧
        (FiscalYear.derive v.date (nominal.getD v).date w).outcome = .ok y := by
  have hparts : fiscalYearParts (.moment v) firstWeekday (.ofNominal nominal) = do
      let w ← firstWeekday.requireWeekday "first_weekday"
      return (v.date, (nominal.getD v).date, w) := by
    cases nominal with
    | none => rfl
    | some n => rfl
  rw [fiscalYear, hparts]
  cases firstWeekday.requireWeekday "first_weekday" with
  | error f => simp [Logged.silent]
  | ok w =>
    simp only [ok_bind, pure_eq_ok, Except.ok.injEq, exists_eq_left']
    rfl

/-- **A derived length reaches to the next fiscal year, except at the end of the calendar.**  The
year has 53 weeks exactly when the next aligned start lies more than 364 days after its own and the
nominal date is not in the last year, and 52 weeks otherwise.  A year that starts with the week of
its nominal date holds every date before the next aligned start, unless it is one of the last year
that would need its 53rd week for a date of the calendar. -/
theorem derivedLength_exact (v : Moment) (firstWeekday : Value) (nominal : Option Moment)
    (y : FiscalYear)
    (h : (Call.fiscalYear (.moment v) firstWeekday .null (.ofNominal nominal)).outcome = .ok y) :
    firstWeekday.requireWeekday "first_weekday" = .ok y.firstWeekday ∧
      y.nominalStart = (nominal.getD v).date ∧
      y.start.dayNumber = y.firstWeekday.weekStart v.dayNumber ∧
      (y.weeks = 52 ∨ y.weeks = 53) ∧
      (y.weeks = 53 ↔ y.nominalStart.year < 9999 ∧
        364 < y.nominalStart.toYearMonthDay.alignedNextYear y.firstWeekday - y.start.dayNumber) ∧
      (nominal = none →
        ((∀ d : Moment, y.start.dayNumber ≤ d.dayNumber →
            d.dayNumber < y.nominalStart.toYearMonthDay.alignedNextYear y.firstWeekday →
              ∃ week, Call.fiscalWeek y (.moment d) = .ok week) ↔
          (y.nominalStart.year = 9999 →
            364 < y.nominalStart.toYearMonthDay.alignedNextYear y.firstWeekday -
                y.start.dayNumber →
              3652058 < y.start.dayNumber + 364))) := by
  obtain ⟨w, hw, hderive⟩ := Call.fiscalYear_derived_eq_ok_iff.1 h
  obtain ⟨⟨rfl, hnominal, hstart⟩, -⟩ := FiscalYear.derive_eq_ok_iff.1 hderive
  rw [hnominal]
  refine ⟨hw, rfl, hstart, y.weeks_cases, ?_, ?_⟩
  · rw [FiscalYear.weeks_eq_53_iff]
    exact FiscalYear.derive_long_iff hderive
  · rintro rfl
    simp only [Call.exists_fiscalWeek_iff]
    exact FiscalYear.holdsDay_until_next_iff hderive

def Date.lateJanuary2023 : Date := { year := 2023, month := 1, day := 28, valid := by decide }

/-- From Sunday, 22 January 2023, to Sunday, 28 January 2024, it is 53 weeks. -/
theorem derivedLength_exact_longYear :
    ∃ y, (Call.fiscalYear (.moment (.ofDate .lateJanuary2023)) (.weekday .sunday) .null
        (.ofNominal none)).outcome = .ok y ∧ y.weeks = 53 := by
  have hweek : minDay ≤ Weekday.sunday.weekStart Date.lateJanuary2023.dayNumber := by decide
  obtain ⟨y, hderive⟩ := FiscalYear.exists_derive .lateJanuary2023 hweek
  have hy : (Call.fiscalYear (.moment (.ofDate .lateJanuary2023)) (.weekday .sunday) .null
      (.ofNominal none)).outcome = .ok y :=
    Call.fiscalYear_derived_eq_ok_iff.2 ⟨.sunday, rfl, hderive⟩
  obtain ⟨hweekday, hnominal, hstart, -, hlong, -⟩ := derivedLength_exact _ _ none y hy
  have hsunday : y.firstWeekday = .sunday := (Except.ok.inj hweekday).symm
  refine ⟨y, hy, hlong.2 ?_⟩
  rw [hnominal, hstart, hsunday]
  decide

def Date.newYear9999 : Date := { year := 9999, month := 1, day := 1, valid := by decide }

def Date.newYearsEve9999 : Date := { year := 9999, month := 12, day := 31, valid := by decide }

/-- From Saturday, 26 December 9998, to the Saturday after 31 December 9999 it is 53 weeks as well,
but the year has 52, and the last days of the calendar are outside of it. -/
theorem derivedLength_newYear9999 :
    ∃ y, (Call.fiscalYear (.moment (.ofDate .newYear9999)) (.weekday .saturday) .null
        (.ofNominal none)).outcome = .ok y ∧
      364 < y.nominalStart.toYearMonthDay.alignedNextYear y.firstWeekday - y.start.dayNumber ∧
      y.weeks = 52 ∧
      Date.newYearsEve9999.dayNumber <
        y.nominalStart.toYearMonthDay.alignedNextYear y.firstWeekday ∧
      ∃ f, y.Refuses (.ofDate .newYearsEve9999) f ∧ f.code? = some .dateOutsideFiscalYear := by
  have hweek : minDay ≤ Weekday.saturday.weekStart Date.newYear9999.dayNumber := by decide
  have hyear : ¬Date.newYear9999.year < maxYear := by decide
  have heve : (Moment.ofDate .newYearsEve9999).dayNumber = 3652058 := by decide
  obtain ⟨y, hderive⟩ := FiscalYear.exists_derive .newYear9999 hweek
  obtain ⟨⟨hweekday, hnominal, hstart⟩, hlong⟩ := FiscalYear.derive_eq_ok_iff.1 hderive
  rw [FiscalYear.derivedLong_maxYear hyear, Except.ok.injEq] at hlong
  have hweeks : y.weeks = 52 := by
    rw [FiscalYear.weeks, ← hlong]
    rfl
  have hfirst : y.start.dayNumber = 3651688 := by
    rw [hstart]
    decide
  have hnext : y.nominalStart.toYearMonthDay.alignedNextYear y.firstWeekday = 3652059 := by
    rw [hnominal, hweekday]
    decide
  have hlast : y.lastDay = 3652051 := by
    rw [FiscalYear.lastDay, hfirst, hweeks]
    rfl
  refine ⟨y, Call.fiscalYear_derived_eq_ok_iff.2 ⟨.saturday, rfl, hderive⟩, ?_, hweeks, ?_, _,
    FiscalYear.refuses_of_not_holdsDay ?_, ?_⟩
  · rw [hnext, hfirst]
    decide
  · rw [hnext]
    decide
  · rw [FiscalYear.HoldsDay, heve, hlast]
    omega
  · rw [Fault.code?_cause, Option.some.injEq, FiscalYear.refusal_code_iff, hlast]
    decide

end BusinessCalendar
