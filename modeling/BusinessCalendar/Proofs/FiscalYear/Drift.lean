import BusinessCalendar.Proofs.FiscalYear.Derivation

/-!
# Fiscal years out of place

A fiscal year whose length or nominal date was set by hand need not end where the next one is due,
so that the year after starts weeks away from the week of its nominal date.  The length of that year
is derived again, from where it does start: **a year that starts late is short, and a year that
starts early is long** (`LengthDerived.weeks_of_late`, `LengthDerived.weeks_of_early`).  The years
after it come back week by week, and **they never go further away or past their place**
(`misplacedYear_heals`).

* `FiscalYear.drift` — how late a year starts; always whole weeks.
* `FiscalYear.LengthDerived.drift_next_mem` — the step: what a year of derived length leaves to the
  next lies between 0 and its own drift.
* `FiscalYear.drift_mem_of_later` — the run, from one year on.
-/

namespace BusinessCalendar

/-- What lies between 0 and a number is no further from 0 and not on the other side. -/
lemma nearer_of_mem_uIcc {a b : Int} (h : b ∈ Set.uIcc 0 a) :
    |b| ≤ |a| ∧ (b = 0 ∨ b.sign = a.sign) ∧ (a = 0 → b = 0) := by
  rcases Set.mem_uIcc.1 h with ⟨hlow, hhigh⟩ | ⟨hlow, hhigh⟩
  · refine ⟨abs_le_abs_of_nonneg hlow hhigh, ?_, by omega⟩
    rcases Int.lt_or_eq_of_le hlow with hpos | rfl
    · rw [Int.sign_eq_one_of_pos hpos, Int.sign_eq_one_of_pos (Int.lt_of_lt_of_le hpos hhigh)]
      exact .inr rfl
    · exact .inl rfl
  · refine ⟨abs_le_abs_of_nonpos hhigh hlow, ?_, by omega⟩
    rcases Int.lt_or_eq_of_le hhigh with hneg | rfl
    · rw [Int.sign_eq_neg_one_of_neg hneg,
        Int.sign_eq_neg_one_of_neg (Int.lt_of_le_of_lt hlow hneg)]
      exact .inr rfl
    · exact .inl rfl

namespace FiscalYear

/-- How many days after the week of its nominal date a year starts; below 0 if it starts before. -/
def drift (y : FiscalYear) : Int :=
  y.start.dayNumber - y.firstWeekday.weekStart y.nominalStart.dayNumber

variable {y z q : FiscalYear}

/-- Both the start and the week of the nominal date fall on the first weekday. -/
lemma seven_dvd_drift (y : FiscalYear) : 7 ∣ y.drift := by
  have hstart : Weekday.onDay y.start.dayNumber = y.firstWeekday := y.start_weekday
  refine Int.dvd_of_emod_eq_zero ((Weekday.onDay_eq_onDay_iff _ _).1 ?_)
  rw [hstart, Weekday.onDay_weekStart]

/-! ## One year -/

/-- The drift of the year after: this one adds its length, and the nominal date moves on. -/
lemma drift_next (hz : y.next.outcome = .ok z) :
    ∃ h : y.nominalStart.year < maxYear, z.drift = y.drift + y.weeks * 7 -
      (y.firstWeekday.weekStart (y.nominalStart.sameDayNextYear h).dayNumber -
        y.firstWeekday.weekStart y.nominalStart.dayNumber) := by
  obtain ⟨hweekday, hstart, ⟨h, hnominal⟩, -⟩ := next_spec hz
  refine ⟨h, ?_⟩
  rw [drift, drift, hweekday, hnominal, hstart, lastDay]
  omega

/-- A year that starts late has reached the next start, or all but reached it, after 52 weeks. -/
lemma LengthDerived.weeks_of_late (hy : y.LengthDerived) (h : y.nominalStart.year < maxYear)
    (hlate : 0 < y.drift) : y.weeks = 52 := by
  have hgap := weekStart_sameDayNextYear y.firstWeekday h
  have hwhole := y.seven_dvd_drift
  rw [hy.weeks_eq h, if_neg]
  rw [drift] at hlate hwhole
  omega

/-- A year that starts early has the next start more than 52 weeks away. -/
lemma LengthDerived.weeks_of_early (hy : y.LengthDerived) (h : y.nominalStart.year < maxYear)
    (hearly : y.drift < 0) : y.weeks = 53 := by
  have hgap := weekStart_sameDayNextYear y.firstWeekday h
  rw [hy.weeks_eq h, if_pos]
  rw [drift] at hearly
  omega

/-- **A year of derived length never leaves the next one further away, nor on the other side.** -/
theorem LengthDerived.drift_next_mem (hy : y.LengthDerived) (hz : y.next.outcome = .ok z) :
    z.drift ∈ Set.uIcc 0 y.drift := by
  obtain ⟨h, hnext⟩ := drift_next hz
  have hgap := weekStart_sameDayNextYear y.firstWeekday h
  have hwhole := y.seven_dvd_drift
  rw [Set.mem_uIcc]
  rcases lt_trichotomy y.drift 0 with hearly | hplace | hlate
  · have hlong := hy.weeks_of_early h hearly
    omega
  · have hcourse := (hy.onCourse (Int.sub_eq_zero.1 hplace)).next hz
    have hzero : z.drift = 0 := Int.sub_eq_zero.2 hcourse.1.start_eq
    omega
  · have hshort := hy.weeks_of_late h hlate
    omega

/-! ## The years after -/

/-- The second year is the one after the first. -/
def Precedes (y z : FiscalYear) : Prop := y.next.outcome = .ok z

/-- From a year of derived length on, every drift lies between 0 and the drift of that year. -/
lemma drift_mem_of_later (hy : y.LengthDerived) (hq : Relation.ReflTransGen Precedes y q) :
    q.LengthDerived ∧ q.drift ∈ Set.uIcc 0 y.drift := by
  induction hq with
  | refl => exact ⟨hy, Set.right_mem_uIcc⟩
  | tail _ hstep ih =>
    obtain ⟨hderived, hmem⟩ := ih
    have hnearer := hderived.drift_next_mem hstep
    exact ⟨(next_spec hstep).2.2.2, Set.uIcc_subset_uIcc Set.left_mem_uIcc hmem hnearer⟩

/-- A year after another has the week of its nominal date in the calendar. -/
lemma Precedes.minDay_le_weekStart (hz : y.Precedes z) :
    minDay ≤ z.firstWeekday.weekStart z.nominalStart.dayNumber := by
  obtain ⟨-, -, ⟨h, hnominal⟩, -⟩ := next_spec hz
  have hlater := Date.dayNumber_sameDayNextYear h
  have hlow := y.nominalStart.representable_dayNumber.1
  have hweek := z.firstWeekday.weekStart_bounds z.nominalStart.dayNumber
  rw [hnominal] at hweek ⊢
  omega

/-- A later year than one that follows another follows another, too. -/
lemma Precedes.exists_precedes (hz : y.Precedes z) (hq : Relation.ReflTransGen Precedes z q) :
    ∃ r : FiscalYear, r.Precedes q := by
  cases hq with
  | refl => exact ⟨y, hz⟩
  | tail _ hstep => exact ⟨_, hstep⟩

/-! ## The call -/

/-- The year starts `e` days after the first day of the week of its nominal date. -/
def MisplacedBy (y : FiscalYear) (e : Int) : Prop :=
  ∃ week : Date,
    Call.firstDayOfWeek (.date y.nominalStart) (.weekday y.firstWeekday) = .ok (.ofDate week) ∧
      e = y.start.dayNumber - week.dayNumber

lemma MisplacedBy.eq_drift {e : Int} (h : y.MisplacedBy e) : e = y.drift := by
  obtain ⟨week, hweek, rfl⟩ := h
  have hday := ((Call.firstDayOfWeek_eq_ok_iff rfl).1 hweek).1
  rw [drift, ← Moment.dayNumber_ofDate week, hday, Moment.dayNumber_ofDate]

lemma misplacedBy_drift (h : minDay ≤ y.firstWeekday.weekStart y.nominalStart.dayNumber) :
    y.MisplacedBy y.drift := by
  obtain ⟨week, hweek⟩ := Date.exists_weekStart h
  refine ⟨week, (Call.firstDayOfWeek_eq_ok_iff rfl).2 ⟨hweek, rfl⟩, ?_⟩
  rw [drift, hweek]

end FiscalYear

/-- **A fiscal year out of place comes back and never leaves.**  Whatever the length and the nominal
date of a year, the years after it start on the day after the one before, whole weeks from the week
of their nominal date.  The first of them is short if it starts late and long if it starts early, so
that the next starts no further away and not on the other side; and so does every year after that.
One of them that starts in its place is followed by such years only. -/
theorem misplacedYear_heals (p p' p'' : FiscalYear) (h' : p.next.outcome = .ok p')
    (h'' : p'.next.outcome = .ok p'') :
    (∃ stop, p.stop = .ok stop ∧ p'.start.dayNumber = stop.dayNumber + 1) ∧
      (∃ stop, p'.stop = .ok stop ∧ p''.start.dayNumber = stop.dayNumber + 1) ∧
      ∃ e' e'' : Int, p'.MisplacedBy e' ∧ p''.MisplacedBy e'' ∧ 7 ∣ e' ∧ 7 ∣ e'' ∧
        |e''| ≤ |e'| ∧ (e'' = 0 ∨ e''.sign = e'.sign) ∧
        (0 < e' → p'.weeks = 52) ∧ (e' < 0 → p'.weeks = 53) ∧
        ∀ q, Relation.ReflTransGen FiscalYear.Precedes p' q →
          ∃ e, q.MisplacedBy e ∧ |e| ≤ |e'| ∧ (e = 0 ∨ e.sign = e'.sign) ∧ (e' = 0 → e = 0) := by
  have hderived : p'.LengthDerived := (FiscalYear.next_spec h').2.2.2
  obtain ⟨hyear, -⟩ := FiscalYear.drift_next h''
  have hrun : ∀ q, Relation.ReflTransGen FiscalYear.Precedes p' q →
      q.MisplacedBy q.drift ∧ |q.drift| ≤ |p'.drift| ∧
        (q.drift = 0 ∨ q.drift.sign = p'.drift.sign) ∧ (p'.drift = 0 → q.drift = 0) := by
    intro q hq
    obtain ⟨r, hr⟩ := FiscalYear.Precedes.exists_precedes h' hq
    have hmem := (FiscalYear.drift_mem_of_later hderived hq).2
    exact ⟨FiscalYear.misplacedBy_drift hr.minDay_le_weekStart, nearer_of_mem_uIcc hmem⟩
  obtain ⟨hplace', -⟩ := hrun p' .refl
  obtain ⟨hplace'', hnearer, hside, -⟩ := hrun p'' (.single h'')
  exact ⟨FiscalYear.exists_stop_of_next h', FiscalYear.exists_stop_of_next h'', p'.drift, p''.drift,
    hplace', hplace'', p'.seven_dvd_drift, p''.seven_dvd_drift, hnearer, hside,
    hderived.weeks_of_late hyear, hderived.weeks_of_early hyear,
    fun q hq => ⟨q.drift, hrun q hq⟩⟩

/-- The 53 weeks from Sunday, 23 January 2022, on, where 52 would have been due. -/
def FiscalYear.overlongYear : FiscalYear where
  start := { year := 2022, month := 1, day := 23, valid := by decide }
  firstWeekday := .sunday
  long := true
  nominalStart := { year := 2022, month := 1, day := 28, valid := by decide }
  start_weekday := by decide

/-- The year after starts a week late, has 52 weeks though 53 lie between the nominal dates, and the
next is in its place. -/
theorem misplacedYear_heals_nextYear :
    ∃ p' p'', FiscalYear.overlongYear.next.outcome = .ok p' ∧ p'.next.outcome = .ok p'' ∧
      p'.MisplacedBy 7 ∧ p'.weeks = 52 ∧ p''.MisplacedBy 0 := by
  obtain ⟨p', h'⟩ := FiscalYear.exists_next_iff (y := .overlongYear).2 ⟨by decide, by decide⟩
  obtain ⟨hsunday, hstart, ⟨_, hnominal⟩, -⟩ := FiscalYear.next_spec h'
  have hjanuary : p'.nominalStart = ⟨⟨2023, 1, 28⟩, by decide⟩ := hnominal
  have hlate : p'.drift = 7 := by
    rw [FiscalYear.drift, hsunday, hstart, hjanuary]
    decide
  have hlast : p'.lastDay < maxDay := by
    rw [FiscalYear.lastDay, FiscalYear.weeks, hstart]
    split <;> decide
  have hyear : p'.nominalStart.year < maxYear := by
    rw [hjanuary]
    decide
  obtain ⟨p'', h''⟩ := FiscalYear.exists_next_iff.2 ⟨hyear, hlast⟩
  obtain ⟨-, -, e', e'', he', he'', -, -, -, -, hshort, -⟩ := misplacedYear_heals _ p' p'' h' h''
  obtain rfl : e' = 7 := he'.eq_drift.trans hlate
  have hweeks := hshort (by decide)
  obtain ⟨_, hnext⟩ := FiscalYear.drift_next h''
  obtain rfl : e'' = 0 := by
    rw [he''.eq_drift, hnext, hlate, hweeks]
    simp only [hsunday, hjanuary]
    rfl
  exact ⟨p', p'', h', h'', he', hweeks, he''⟩

end BusinessCalendar
