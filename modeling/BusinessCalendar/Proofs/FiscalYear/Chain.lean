import BusinessCalendar.Proofs.FiscalYear.Derivation
import BusinessCalendar.Proofs.FiscalYear.Division

/-!
# Fiscal years one after the other

From a fiscal year of derived length the years after it are counted on week by week, each from the
end of the one before, while the nominal date moves on by calendar years.  **The two never drift
apart, and the years leave no gap** (`fiscalYears_never_drift`).

Each step keeps a year on course (`FiscalYear.OnCourse.next`), so every year of the run is
(`FiscalYear.chain_spec`), and what is on course has its weeks in place.

* `FiscalYear.chain` — the run of years from a start date.
* `YearMonthDay.yearsLater` — the nominal dates of the run.
-/

namespace BusinessCalendar

lemma Logged.andThen_eq_ok_iff {α β : Type} {x : Logged α} {f : α → Logged β} {b : β} :
    (x.andThen f).outcome = .ok b ↔ ∃ a, x.outcome = .ok a ∧ (f a).outcome = .ok b := by
  rw [andThen]
  cases hx : x.outcome with
  | ok a => simp
  | error e => simp

/-! ## Nominal dates -/

/-- The date some years later; a 29 February becomes a 28 February, and stays one. -/
def YearMonthDay.yearsLater (d : YearMonthDay) (k : Nat) : YearMonthDay where
  year := d.year + k
  month := d.month
  day := if 0 < k ∧ d.month = 2 ∧ d.day = 29 then 28 else d.day

lemma YearMonthDay.yearsLater_zero (d : YearMonthDay) : d.yearsLater 0 = d := by
  simp [yearsLater]

lemma Date.sameDayNextYear_of_yearsLater {d : Date} {e : YearMonthDay} {k : Nat}
    (h : d.year < maxYear) (hd : d.toYearMonthDay = e.yearsLater k) :
    (d.sameDayNextYear h).toYearMonthDay = e.yearsLater (k + 1) := by
  have hday := sameDayNextYear_day h
  simp only [sameDayNextYear, hd, YearMonthDay.yearsLater] at hday
  simp only [sameDayNextYear, hd, YearMonthDay.yearsLater, YearMonthDay.mk.injEq, hday]
  refine ⟨by omega, trivial, ?_⟩
  by_cases hfebruary : e.month = 2 ∧ e.day = 29
  · -- the 29 February is lost with the first step, and the 28 February of the first step stays
    rw [if_pos (⟨Nat.succ_pos k, hfebruary⟩ : 0 < k + 1 ∧ e.month = 2 ∧ e.day = 29)]
    simp only [hfebruary, and_true, true_and]
    split <;> rfl
  · have hstays : ∀ j : Nat, ¬(0 < j ∧ e.month = 2 ∧ e.day = 29) := fun _ hj => hfebruary hj.2
    rw [if_neg (hstays k), if_neg (hstays (k + 1)), if_neg hfebruary]

namespace FiscalYear

/-! ## The run of years -/

/-- The fiscal year made from a start date, and the years after it. -/
def chain (v : Moment) (firstWeekday : Value) : Nat → Logged FiscalYear
  | 0 => Call.fiscalYear (.moment v) firstWeekday
  | k + 1 => (chain v firstWeekday k).andThen next

variable {v : Moment} {firstWeekday : Value} {p q : FiscalYear} {k : Nat}

lemma chain_succ_eq_ok_iff :
    (chain v firstWeekday (k + 1)).outcome = .ok q ↔
      ∃ p, (chain v firstWeekday k).outcome = .ok p ∧ p.next.outcome = .ok q :=
  Logged.andThen_eq_ok_iff

/-- Every year of the run is on course, with the weekday of the first and a nominal date whole years
after the start date. -/
lemma chain_spec (h : (chain v firstWeekday k).outcome = .ok p) :
    p.OnCourse ∧ firstWeekday.requireWeekday "first_weekday" = .ok p.firstWeekday ∧
      p.nominalStart.toYearMonthDay = v.date.toYearMonthDay.yearsLater k := by
  induction k generalizing p with
  | zero =>
    obtain ⟨w, hw, hderive⟩ := Call.fiscalYear_eq_ok_iff.1 h
    obtain ⟨⟨rfl, hnominal, -⟩, -⟩ := derive_eq_ok_iff.1 hderive
    rw [YearMonthDay.yearsLater_zero, hnominal]
    exact ⟨derive_onCourse hderive rfl, hw, rfl⟩
  | succ k ih =>
    obtain ⟨r, hr, hnext⟩ := chain_succ_eq_ok_iff.1 h
    obtain ⟨hcourse, hweekday, hnominal⟩ := ih hr
    obtain ⟨hcourse', hweekday', -, hyear, hnominal'⟩ := hcourse.next hnext
    rw [hweekday', hnominal']
    exact ⟨hcourse', hweekday, Date.sameDayNextYear_of_yearsLater hyear hnominal⟩

/-- An earlier year of the run is over before a later one starts. -/
lemma chain_lt {j : Nat} (hkj : k < j) (hp : (chain v firstWeekday k).outcome = .ok p)
    (hq : (chain v firstWeekday j).outcome = .ok q) : p.lastDay < q.start.dayNumber := by
  induction j generalizing q with
  | zero => exact absurd hkj (Nat.not_lt_zero k)
  | succ j ih =>
    obtain ⟨r, hr, hnext⟩ := chain_succ_eq_ok_iff.1 hq
    have hstart := ((chain_spec hr).1.next hnext).2.2.1
    rcases Nat.lt_succ_iff_lt_or_eq.1 hkj with hlt | rfl
    · have hlate := ih hlt hr
      have hlength := r.start_le_lastDay
      omega
    · obtain rfl : p = r := Except.ok.inj (hp.symm.trans hr)
      omega

/-- The years of the run hold every day from the start of the first to the end of the last. -/
lemma exists_chain_holdsDay (hp : (chain v firstWeekday k).outcome = .ok p) :
    ∃ first, (chain v firstWeekday 0).outcome = .ok first ∧
      ∀ n, first.start.dayNumber ≤ n → n ≤ p.lastDay →
        ∃ j r, (chain v firstWeekday j).outcome = .ok r ∧ r.HoldsDay n := by
  induction k generalizing p with
  | zero => exact ⟨p, hp, fun n hlow hhigh => ⟨0, p, hp, hlow, hhigh⟩⟩
  | succ k ih =>
    obtain ⟨r, hr, hnext⟩ := chain_succ_eq_ok_iff.1 hp
    obtain ⟨first, hfirst, hheld⟩ := ih hr
    have hstart := ((chain_spec hr).1.next hnext).2.2.1
    refine ⟨first, hfirst, fun n hlow hhigh => ?_⟩
    by_cases hn : n ≤ r.lastDay
    · exact hheld n hlow hn
    · exact ⟨k + 1, p, hp, by omega, hhigh⟩

/-- A day belongs to one year of the run at most. -/
lemma chain_holdsDay_unique {j : Nat} {n : Int} (hp : (chain v firstWeekday k).outcome = .ok p)
    (hq : (chain v firstWeekday j).outcome = .ok q) (hpn : p.HoldsDay n) (hqn : q.HoldsDay n) :
    k = j := by
  rcases Nat.lt_trichotomy k j with hlt | heq | hgt
  · have := chain_lt hlt hp hq
    exact absurd (Int.le_trans hqn.1 hpn.2) (by omega)
  · exact heq
  · have := chain_lt hgt hq hp
    exact absurd (Int.le_trans hpn.1 hqn.2) (by omega)

end FiscalYear

/-- **Fiscal years of derived length never drift, and leave no gap and no overlap.**  The nominal
date of each year of the run is the start date moved on by as many calendar years, the year starts
with the week of that date, and only after a nominal date in the last year is there no next one.
The next year starts on the day after the last one, so that every day from the start of the first
year to the end of any other is a day of exactly one year of the run. -/
theorem fiscalYears_never_drift (v : Moment) (firstWeekday : Value) (k : Nat) (p : FiscalYear)
    (h : (FiscalYear.chain v firstWeekday k).outcome = .ok p) :
    p.nominalStart.toYearMonthDay = v.date.toYearMonthDay.yearsLater k ∧
      Call.firstDayOfWeek (.date p.nominalStart) firstWeekday = .ok (.ofDate p.start) ∧
      ((∃ f, p.next.outcome = .error f) ↔ p.nominalStart.year = 9999) ∧
      (∀ q, p.next.outcome = .ok q →
        ∃ stop, p.stop = .ok stop ∧ q.start.dayNumber = stop.dayNumber + 1) ∧
      ∃ first, (FiscalYear.chain v firstWeekday 0).outcome = .ok first ∧
        ∀ d : Moment, first.start.dayNumber ≤ d.dayNumber → d.dayNumber ≤ p.lastDay →
          ∃! j, ∃ r, (FiscalYear.chain v firstWeekday j).outcome = .ok r ∧
            ∃ week, Call.fiscalWeek r (.moment d) = .ok week := by
  obtain ⟨hcourse, hweekday, hnominal⟩ := FiscalYear.chain_spec h
  refine ⟨hnominal, ?_, hcourse.next_error_iff, ?_, ?_⟩
  · obtain ⟨n, rfl, hn⟩ := Value.requireWeekday_eq_ok_iff.1 hweekday
    exact (Call.firstDayOfWeek_eq_ok_iff hn).2 ⟨hcourse.start_eq, rfl⟩
  · intro q hq
    obtain ⟨-, stop, first, hstop, -⟩ := FiscalYear.next_eq_ok_iff.1 hq
    refine ⟨stop, hstop, ?_⟩
    rw [(hcourse.next hq).2.2.1, Date.atDay_eq_ok_iff.1 hstop]
  · obtain ⟨first, hfirst, hheld⟩ := FiscalYear.exists_chain_holdsDay h
    refine ⟨first, hfirst, fun d hlow hhigh => ?_⟩
    simp only [Call.exists_fiscalWeek_iff]
    obtain ⟨j, r, hr, hd⟩ := hheld d.dayNumber hlow hhigh
    refine ⟨j, ⟨r, hr, hd⟩, ?_⟩
    rintro i ⟨s, hs, hsd⟩
    exact FiscalYear.chain_holdsDay_unique hs hr hsd hd

def Date.leapDay2024 : Date := { year := 2024, month := 2, day := 29, valid := by decide }

/-- From 29 February on, the next year is aligned to 28 February. -/
theorem fiscalYears_never_drift_leapDay :
    ∃ p, (FiscalYear.chain (.ofDate .leapDay2024) (.weekday .sunday) 1).outcome = .ok p ∧
      p.nominalStart.toYearMonthDay = { year := 2025, month := 2, day := 28 } ∧
      Call.firstDayOfWeek (.date p.nominalStart) (.weekday .sunday) = .ok (.ofDate p.start) := by
  have hweek : minDay ≤ Weekday.sunday.weekStart Date.leapDay2024.dayNumber := by decide
  obtain ⟨first, hderive⟩ := FiscalYear.exists_derive .leapDay2024 hweek
  have hfirst :
      (FiscalYear.chain (.ofDate .leapDay2024) (.weekday .sunday) 0).outcome = .ok first :=
    Call.fiscalYear_eq_ok_iff.2 ⟨.sunday, rfl, hderive⟩
  obtain ⟨hnominal, -, hfails, -⟩ := fiscalYears_never_drift _ _ 0 first hfirst
  cases hnext : first.next.outcome with
  | error f =>
    have hyear := hfails.1 ⟨f, hnext⟩
    rw [hnominal] at hyear
    exact absurd hyear (by decide)
  | ok p =>
    have hp := FiscalYear.chain_succ_eq_ok_iff.2 ⟨first, hfirst, hnext⟩
    obtain ⟨hlater, hstart, -⟩ := fiscalYears_never_drift _ _ 1 p hp
    exact ⟨p, hp, hlater, hstart⟩

end BusinessCalendar
