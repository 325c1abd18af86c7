import BusinessCalendar.Proofs.FiscalYear.Derivation

/-!
# Fiscal years and their fields

Making a fiscal year tidies up what it is given: a time of day is dropped, the start is moved back
to the first weekday, a length that was left out is derived.  **What is tidy is left alone**
(`FiscalYear.build_start`), so that a year made once more from its own fields is the same year, with
nothing to be noticed on the way; and the fields that it cannot do without are three, since **no
question about a date looks at the nominal date** (`fiscalYear_described_by_fields`).

* `FiscalYear.withNominal` — the year of the same weeks around another nominal date.
* `FiscalYear.SameAnswers` — two years that no question about a date tells apart.
* `Call.fiscalYear_of_fields` — making a year from its own start and first weekday.
-/

namespace BusinessCalendar

namespace FiscalYear

variable {y : FiscalYear}

/-- The same weeks around another nominal date. -/
def withNominal (y : FiscalYear) (nominal : Date) : FiscalYear :=
  { y with nominalStart := nominal }

/-! ## Making a year from its fields -/

lemma alignBack_start (y : FiscalYear) :
    alignBack y.start y.firstWeekday = .ok ⟨y.start, y.start_weekday⟩ :=
  alignBack_eq_ok_iff.2 (y.firstWeekday.weekStart_of_onDay y.start_weekday).symm

/-- **A start on the first weekday is not moved**, and there is nothing to notice. -/
theorem build_start {nominal : Date} {long : Date → Outcome Bool}
    (h : long y.start = .ok y.long) :
    build y.start nominal y.firstWeekday long = .silent (.ok (y.withNominal nominal)) := by
  simp only [build, alignBack_start, alignmentNotices, if_true, h, ok_bind, pure_eq_ok]
  rfl

lemma checkLong_weeks (y : FiscalYear) : checkLong (.plain y.weeks) = .ok y.long := by
  rw [checkLong, Numeral.value_plain, weeks]
  cases y.long with
  | false => rfl
  | true => rfl

/-! ## Questions about a date -/

/-- Whatever is asked about a date, two years have the same answer or the same failure. -/
structure SameAnswers (y z : FiscalYear) : Prop where
  week : ∀ value, Call.fiscalWeek y value = Call.fiscalWeek z value
  month : ∀ value, Call.fiscalMonth y value = Call.fiscalMonth z value
  quarter : ∀ value, Call.fiscalQuarter y value = Call.fiscalQuarter z value
  quarterStart : ∀ value, Call.fiscalQuarterStart y value = Call.fiscalQuarterStart z value
  quarterStop : ∀ value, Call.fiscalQuarterStop y value = Call.fiscalQuarterStop z value
  startMonth : ∀ quarter, Call.fiscalStartMonth y quarter = Call.fiscalStartMonth z quarter
  stop : y.stop = z.stop

/-- The nominal date matters to the length of a year and to the year after, and to nothing else. -/
lemma withNominal_sameAnswers (y : FiscalYear) (nominal : Date) :
    (y.withNominal nominal).SameAnswers y := by
  constructor
  all_goals
    intros
    rfl

end FiscalYear

namespace Call

variable {start firstWeekday nominal : Value} {y : FiscalYear}

/-- A year that was made without a length has the length that derives from its fields. -/
lemma lengthDerived_of_fiscalYear
    (h : (fiscalYear start firstWeekday .null nominal).outcome = .ok y) : y.LengthDerived := by
  rw [fiscalYear] at h
  split at h
  · cases h
  · obtain ⟨⟨rfl, rfl, -⟩, hlong⟩ := FiscalYear.build_eq_ok_iff.1 h
    exact liftM_eq_ok_iff.1 hlong

lemma fiscalYearLong_weeks (y : FiscalYear) (nominal : Date) (w : Weekday) (aligned : Date) :
    fiscalYearLong (.int y.weeks) nominal w aligned = .ok y.long := by
  change (liftM (FiscalYear.checkLong (.plain y.weeks)) : Outcome Bool) = _
  rw [y.checkLong_weeks, liftM_ok]

/-- From its own start and first weekday a year is made anew in silence, if it gets its length. -/
lemma fiscalYear_of_fields (y : FiscalYear) {weeks : Value} {n : Date}
    (hparts : fiscalYearParts (.date y.start) (.weekday y.firstWeekday) nominal =
      .ok (y.start, n, y.firstWeekday))
    (hlong : fiscalYearLong weeks n y.firstWeekday y.start = .ok y.long) :
    fiscalYear (.date y.start) (.weekday y.firstWeekday) weeks nominal =
      .silent (.ok (y.withNominal n)) := by
  rw [fiscalYear, hparts]
  exact FiscalYear.build_start hlong

end Call

/-- **A fiscal year is described by its fields.**  Made once more from all four it is the same year,
and nothing is noticed; if it was made without a length, the length may be left out again.  From its
start, its first weekday and its length alone comes a year that answers every question about a date
alike, and has the same last date. -/
theorem fiscalYear_described_by_fields (start firstWeekday weeks nominal : Value) (p : FiscalYear)
    (h : (Call.fiscalYear start firstWeekday weeks nominal).outcome = .ok p) :
    Call.fiscalYear (.date p.start) (.weekday p.firstWeekday) (.int p.weeks)
        (.date p.nominalStart) = { notices := [], outcome := .ok p } ∧
      (weeks = .null →
        Call.fiscalYear (.date p.start) (.weekday p.firstWeekday) .null (.date p.nominalStart) =
          { notices := [], outcome := .ok p }) ∧
      ∃ q, (Call.fiscalYear (.date p.start) (.weekday p.firstWeekday) (.int p.weeks)).outcome =
          .ok q ∧ q.SameAnswers p := by
  refine ⟨?_, ?_, p.withNominal p.start, ?_, p.withNominal_sameAnswers p.start⟩
  · exact Call.fiscalYear_of_fields p rfl (Call.fiscalYearLong_weeks p _ _ _)
  · rintro rfl
    have hderived := Call.lengthDerived_of_fiscalYear h
    exact Call.fiscalYear_of_fields p rfl (liftM_eq_ok_iff.2 hderived)
  · rw [Call.fiscalYear_of_fields p rfl (Call.fiscalYearLong_weeks p _ _ _)]
    rfl

/-- Noon of Saturday, 27 January 2024. -/
def Moment.noon2024 : Moment where
  date := { year := 2024, month := 1, day := 27, valid := by decide }
  clock := some { microsecond := 43200000000, offset := none }

/-- A year made from a time of day and the number of a weekday, and made again from its fields. -/
theorem fiscalYear_described_by_fields_noon :
    ∃ p, (Call.fiscalYear (.moment .noon2024) (.int 6)).outcome = .ok p ∧
      Call.fiscalYear (.date p.start) (.weekday p.firstWeekday) .null (.date p.nominalStart) =
        { notices := [], outcome := .ok p } := by
  have hweek : minDay ≤ Weekday.sunday.weekStart Moment.noon2024.date.dayNumber := by decide
  obtain ⟨p, hderive⟩ := FiscalYear.exists_derive Moment.noon2024.date hweek
  have hp : (Call.fiscalYear (.moment .noon2024) (.int 6)).outcome = .ok p :=
    Call.fiscalYear_eq_ok_iff.2 ⟨.sunday, rfl, hderive⟩
  exact ⟨p, hp, (fiscalYear_described_by_fields _ _ _ _ p hp).2.1 rfl⟩

end BusinessCalendar
