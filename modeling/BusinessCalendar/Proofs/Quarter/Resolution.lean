import BusinessCalendar.Call.Quarter
import BusinessCalendar.Proofs.Gregorian.YearLine
import BusinessCalendar.Proofs.Outcome
import BusinessCalendar.Proofs.Quarter.Line

/-!
# Resolving a date to its quarter

The quarter of a date is found on the unbounded line of days; what can be represented is decided only
when its boundaries become dates.  **A date resolves exactly when its fiscal year is at least 1 and
the last day of its quarter is representable, and then to the one quarter that contains it**
(`resolveQuarter_exact`).

* `Anchor.boundary_eq_ok_iff` — a boundary is a first day that is at most one day past the last date.
* `Quarter.ofIndex_eq_ok_iff`, `Quarter.resolve_eq_ok_iff` — quarters by their boundaries.
* `Quarter.OnLine`, `Quarter.onLine_of_resolve` — resolved quarters as places on the line of quarters.
* `Value.anchor?` — the definitions that have boundaries of their own.
-/

namespace BusinessCalendar

/-! ## Days that are dates -/

namespace YearMonthDay

lemma dayNumber_le_maxDay_iff {d : YearMonthDay} (h : d.Proper) :
    d.dayNumber ≤ maxDay ↔ d.year ≤ maxYear := by
  have hbounds := dayNumber_bounds h
  have hend : daysBeforeYear (maxYear + 1) = maxDay + 1 := by decide
  constructor
  · intro hday
    refine Int.not_lt.1 fun hyear => ?_
    have := daysBeforeYear_mono (show maxYear + 1 ≤ d.year by omega)
    omega
  · intro hyear
    have := daysBeforeYear_mono (show d.year + 1 ≤ maxYear + 1 by omega)
    omega

end YearMonthDay

/-! ## Boundaries -/

namespace Anchor

variable {a : Anchor} {year quarter : Int}

/-- The first day of a quarter exists in its month, whatever the month. -/
lemma startDay_proper (a : Anchor) (year quarter : Int) :
    (YearMonthDay.mk (a.startYear year quarter) (a.startMonth quarter) a.day).Proper := by
  have hmonth := a.startMonth_bounds quarter
  have hlength := daysInMonth_bounds (a.startYear year quarter) hmonth.1 hmonth.2
  have hday := a.day_range
  rw [maxAnchorDay] at hday
  exact YearMonthDay.proper_mk hmonth (by omega)

lemma le_startYear (hq : 1 ≤ quarter) : year ≤ a.startYear year quarter := by
  have := a.month_range
  simp only [startYear, monthOffset]
  omega

lemma startDay_nonneg (hy : 1 ≤ year) (hq : 1 ≤ quarter) : minDay ≤ a.startDay year quarter := by
  have hbounds := (YearMonthDay.dayNumber_bounds (a.startDay_proper year quarter)).1
  have hfirst := YearMonthDay.daysBeforeYear_mono (Int.le_trans hy (le_startYear (a := a) hq))
  rw [show daysBeforeYear 1 = minDay by decide] at hfirst
  exact Int.le_trans hfirst hbounds

lemma lastDay_nonneg (a : Anchor) (hy : 1 ≤ year) (hq : 1 ≤ quarter) :
    minDay ≤ a.startDay year (quarter + 1) - 1 := by
  have hfirst := a.startDay_nonneg hy hq
  have hstep := a.startDay_step year quarter
  omega

/-- The day after the last one is 1 January of year 10000. -/
lemma startDay_eq_maxDay_add_one_iff :
    a.startDay year quarter = maxDay + 1 ↔
      a.startYear year quarter = maxYear + 1 ∧ a.startMonth quarter = 1 ∧ a.day = 1 := by
  have hnext : maxDay + 1 = (YearMonthDay.mk (maxYear + 1) 1 1).dayNumber := by decide
  constructor
  · intro h
    rw [startDay, hnext] at h
    have heq := YearMonthDay.eq_of_dayNumber_eq (a.startDay_proper year quarter) (by decide) h
    simpa using heq
  · rintro ⟨hyear, hmonth, hday⟩
    rw [startDay, hyear, hmonth, hday, hnext]

/-- **A boundary is the first day of a quarter, up to the day after the last one.** -/
theorem boundary_eq_ok_iff {n : Int} (hy : 1 ≤ year) (hq : 1 ≤ quarter) :
    a.boundary year quarter = .ok n ↔
      a.startDay year quarter ≤ maxDay + 1 ∧ a.startDay year quarter = n := by
  have hlast : a.startDay year quarter ≤ maxDay ↔ a.startYear year quarter ≤ maxYear :=
    YearMonthDay.dayNumber_le_maxDay_iff (a.startDay_proper year quarter)
  have hfirst : minYear ≤ a.startYear year quarter := Int.le_trans hy (le_startYear hq)
  rw [boundary]
  split
  · rename_i hbound
    have heq := startDay_eq_maxDay_add_one_iff.2 hbound
    simp [heq]
  · rename_i hinside
    have hne := mt startDay_eq_maxDay_add_one_iff.1 hinside
    simp only [bind_eq_ok_iff, checkYear_eq_ok_iff, Numeral.value_plain, pure_eq_ok,
      Except.ok.injEq]
    constructor
    · rintro ⟨_, ⟨⟨-, hyear⟩, -⟩, heq⟩
      exact ⟨Int.le_trans (hlast.2 hyear) (by decide), heq⟩
    · rintro ⟨hle, heq⟩
      have hyear := hlast.1 (by omega)
      exact ⟨_, ⟨⟨hfirst, hyear⟩, rfl⟩, heq⟩

lemma boundary_eq_error {c : Cause} (h : a.boundary year quarter = .error c) :
    c = .yearOutOfRange "year" (a.startYear year quarter) := by
  rw [boundary] at h
  split at h
  · cases h
  · rw [checkYear] at h
    split at h
    · cases h
    · cases h
      rfl

lemma boundary_writable {c : Cause} (hy : 1 ≤ year ∧ year ≤ maxYear)
    (hq : 1 ≤ quarter ∧ quarter ≤ 5) (h : a.boundary year quarter = .error c) : c.Writable := by
  have hmonth := a.month_range
  rw [boundary_eq_error h]
  refine Cause.writable_yearOutOfRange ?_
  simp only [startYear, monthOffset, maxYear] at hy ⊢
  omega

/-- A boundary is at most a day off the representable days. -/
lemma boundary_bounds {n : Int} (hy : 1 ≤ year) (hq : 1 ≤ quarter)
    (h : a.boundary year quarter = .ok n) : minDay ≤ n ∧ n ≤ maxDay + 1 := by
  obtain ⟨hlast, rfl⟩ := (boundary_eq_ok_iff hy hq).1 h
  exact ⟨a.startDay_nonneg hy hq, hlast⟩

end Anchor

/-! ## Quarters by their boundaries -/

namespace Quarter

def number (r : Quarter) : Int := quarterNumber r.year r.index

/-- A quarter is on the line of an anchor if it reaches from the edge of its number to the next
one. -/
structure OnLine (r : Quarter) (a : Anchor) : Prop where
  index_range : 1 ≤ r.index ∧ r.index ≤ 4
  start_eq : r.start.dayNumber = a.edge r.number
  stop_eq : r.stop.dayNumber = a.edge (r.number + 1) - 1

variable {a : Anchor} {year quarter : Int} {d : Date} {r : Quarter}

/-- **A quarter of a fiscal year is the one whose boundaries are the edges on the line of days**, and
it exists as soon as both are dates. -/
theorem ofIndex_eq_ok_iff (hy : 1 ≤ year) (hq : 1 ≤ quarter) :
    ofIndex year quarter a = .ok r ↔
      r.year = year ∧ r.index = quarter ∧ r.start.dayNumber = a.startDay year quarter ∧
        r.stop.dayNumber = a.startDay year (quarter + 1) - 1 := by
  have hnext : 1 ≤ quarter + 1 := by omega
  simp only [ofIndex, bind_eq_ok_iff, Anchor.boundary_eq_ok_iff hy hq,
    Anchor.boundary_eq_ok_iff hy hnext, Date.atDay_eq_ok_iff, pure_eq_ok, Except.ok.injEq]
  constructor
  · rintro ⟨_, ⟨-, rfl⟩, _, ⟨-, rfl⟩, start, hstart, stop, hstop, rfl⟩
    exact ⟨rfl, rfl, hstart, hstop⟩
  · rintro ⟨rfl, rfl, hstart, hstop⟩
    have hfirst := r.start.representable_dayNumber.2
    have hlast := r.stop.representable_dayNumber.2
    exact ⟨_, ⟨by omega, rfl⟩, _, ⟨by omega, rfl⟩, r.start, hstart, r.stop, hstop, rfl⟩

lemma exists_ofIndex_iff (hy : 1 ≤ year) (hq : 1 ≤ quarter) :
    (∃ r, ofIndex year quarter a = .ok r) ↔ a.startDay year (quarter + 1) - 1 ≤ maxDay := by
  simp only [ofIndex_eq_ok_iff hy hq]
  constructor
  · rintro ⟨r, -, -, -, hstop⟩
    rw [← hstop]
    exact r.stop.representable_dayNumber.2
  · intro hlast
    have hfirst := a.startDay_nonneg hy hq
    have hstep := a.startDay_step year quarter
    obtain ⟨start, hstart⟩ := (Date.exists_dayNumber_eq_iff hfirst).2 (by omega)
    obtain ⟨stop, hstop⟩ := (Date.exists_dayNumber_eq_iff (a.lastDay_nonneg hy hq)).2 hlast
    exact ⟨{ year, index := quarter, start, stop }, rfl, rfl, hstart, hstop⟩

/-- A quarter fails with one of its boundaries, or because the day of one is not representable. -/
lemma ofIndex_error_cases {c : Cause} (h : ofIndex year quarter a = .error c) :
    ∃ q, (q = quarter ∨ q = quarter + 1) ∧ (a.boundary year q = .error c ∨
      ∃ n m, a.boundary year q = .ok n ∧ (m = n ∨ m = n - 1) ∧
        c = .dayNumberOutOfRange (m : Int) minDay maxDay) := by
  simp only [ofIndex, bind_eq_error_iff, pure_eq_ok, reduceCtorEq, and_false, exists_false,
    or_false] at h
  rcases h with h | ⟨start, hstart, h | ⟨next, hstop, h | ⟨_, -, h⟩⟩⟩
  · exact ⟨_, .inl rfl, .inl h⟩
  · exact ⟨_, .inr rfl, .inl h⟩
  · exact ⟨_, .inl rfl, .inr ⟨start, start, hstart, .inl rfl, (Date.atDay_eq_error_iff.1 h).2⟩⟩
  · exact ⟨_, .inr rfl, .inr ⟨next, next - 1, hstop, .inr rfl, (Date.atDay_eq_error_iff.1 h).2⟩⟩

/-- A quarter that does not exist is refused for the year of a boundary or for the day of an end. -/
lemma ofIndex_eq_error {c : Cause} (h : ofIndex year quarter a = .error c) :
    (∃ y, c = .yearOutOfRange "year" y) ∨ ∃ n, c = .dayNumberOutOfRange n minDay maxDay := by
  obtain ⟨q, -, hboundary | ⟨_, day, -, -, hday⟩⟩ := ofIndex_error_cases h
  · exact .inl ⟨_, Anchor.boundary_eq_error hboundary⟩
  · exact .inr ⟨_, hday⟩

lemma ofIndex_error_kind {c : Cause} (h : ofIndex year quarter a = .error c) :
    c.kind = .range := by
  obtain ⟨_, rfl⟩ | ⟨_, rfl⟩ := ofIndex_eq_error h
  · rfl
  · rfl

/-- The numbers in such a refusal are close to the representable years and days. -/
lemma ofIndex_writable {c : Cause} (hy : 1 ≤ year ∧ year ≤ maxYear)
    (hq : 1 ≤ quarter ∧ quarter ≤ 4) (h : ofIndex year quarter a = .error c) : c.Writable := by
  obtain ⟨q, hcases, herror⟩ := ofIndex_error_cases h
  have hrange : 1 ≤ q ∧ q ≤ 5 := by omega
  rcases herror with hboundary | ⟨n, day, hn, hday, rfl⟩
  · exact Anchor.boundary_writable hy hrange hboundary
  · have hbounds := Anchor.boundary_bounds hy.1 hrange.1 hn
    refine Cause.writable_dayNumberOutOfRange ?_
    simp only [minDay, maxDay] at hbounds
    omega

lemma resolve_eq :
    resolve d a =
      if (a.locate d.toYearMonthDay).1 < minYear then
        .error (.yearOutOfRange "fiscal_year" (a.locate d.toYearMonthDay).1)
      else ofIndex (a.locate d.toYearMonthDay).1 (a.locate d.toYearMonthDay).2 a :=
  rfl

/-- **A date resolves to the quarter found for it**, if its fiscal year is at least 1 and its
boundaries are dates. -/
theorem resolve_eq_ok_iff :
    resolve d a = .ok r ↔
      1 ≤ r.year ∧ a.locate d.toYearMonthDay = (r.year, r.index) ∧
        r.start.dayNumber = a.startDay r.year r.index ∧
        r.stop.dayNumber = a.startDay r.year (r.index + 1) - 1 := by
  have hindex := a.locate_index d.toYearMonthDay
  rw [resolve_eq]
  split
  · rename_i hbefore
    constructor
    · intro h
      cases h
    · rintro ⟨hyear, hfound, -⟩
      rw [hfound] at hbefore
      exact absurd hbefore (Int.not_lt.2 hyear)
  · rename_i hreached
    have hyear : 1 ≤ (a.locate d.toYearMonthDay).1 := Int.not_lt.1 hreached
    rw [ofIndex_eq_ok_iff hyear hindex.1]
    constructor
    · rintro ⟨hry, hri, hstart, hstop⟩
      rw [← hry, ← hri] at hstart hstop
      exact ⟨hry ▸ hyear, Prod.ext hry.symm hri.symm, hstart, hstop⟩
    · rintro ⟨-, hfound, hstart, hstop⟩
      rw [hfound]
      exact ⟨rfl, rfl, hstart, hstop⟩

/-- What a date resolves to is the quarter of the line that holds it. -/
lemma onLine_of_resolve (h : resolve d a = .ok r) :
    r.OnLine a ∧ r.number = a.quarterNumberOf d.toYearMonthDay := by
  obtain ⟨-, hfound, hstart, hstop⟩ := resolve_eq_ok_iff.1 h
  have hindex := a.locate_index d.toYearMonthDay
  have hnumber := Anchor.locate_number (a := a) d.valid.2.1
  rw [hfound] at hindex hnumber
  rw [Anchor.startDay_eq_edge] at hstart hstop
  rw [quarterNumber_succ] at hstop
  exact ⟨⟨hindex, hstart, hstop⟩, hnumber⟩

lemma exists_resolve_iff :
    (∃ r, resolve d a = .ok r) ↔
      1 ≤ (a.locate d.toYearMonthDay).1 ∧
        a.startDay (a.locate d.toYearMonthDay).1 ((a.locate d.toYearMonthDay).2 + 1) - 1 ≤ maxDay := by
  have hindex := a.locate_index d.toYearMonthDay
  rw [resolve_eq]
  split
  · rename_i hbefore
    constructor
    · rintro ⟨r, h⟩
      cases h
    · rintro ⟨hyear, -⟩
      exact absurd hbefore (Int.not_lt.2 hyear)
  · rename_i hreached
    have hyear : 1 ≤ (a.locate d.toYearMonthDay).1 := Int.not_lt.1 hreached
    rw [exists_ofIndex_iff hyear hindex.1]
    exact ⟨fun hlast => ⟨hyear, hlast⟩, And.right⟩

/-- A date that does not resolve is out of range. -/
lemma resolve_error_kind {c : Cause} (h : resolve d a = .error c) : c.kind = .range := by
  rw [resolve_eq] at h
  split at h
  · cases h
    rfl
  · exact ofIndex_error_kind h

lemma resolve_writable {c : Cause} (h : resolve d a = .error c) : c.Writable := by
  have hindex := a.locate_index d.toYearMonthDay
  have hyear : 0 ≤ (a.locate d.toYearMonthDay).1 ∧ (a.locate d.toYearMonthDay).1 ≤ maxYear := by
    have hvalid := d.valid.1
    rw [a.locate_year, Anchor.fiscalYearOf]
    simp only [minYear] at hvalid
    split <;> omega
  rw [resolve_eq] at h
  split at h
  · cases h
    refine Cause.writable_yearOutOfRange ?_
    simp only [maxYear] at hyear
    omega
  · rename_i hreached
    exact ofIndex_writable ⟨Int.not_lt.1 hreached, hyear.2⟩ hindex h

end Quarter

namespace Date

variable {a : Anchor} {year quarter : Int} {d : Date}

lemma quarterStart_eq_ok_iff (hy : 1 ≤ year) (hq : 1 ≤ quarter) :
    quarterStart year quarter a = .ok d ↔ d.dayNumber = a.startDay year quarter := by
  simp only [quarterStart, bind_eq_ok_iff, Anchor.boundary_eq_ok_iff hy hq, atDay_eq_ok_iff]
  constructor
  · rintro ⟨_, ⟨-, rfl⟩, hd⟩
    exact hd
  · intro hd
    have hlast := d.representable_dayNumber.2
    exact ⟨_, ⟨by omega, rfl⟩, hd⟩

lemma quarterEnd_eq_ok_iff (hy : 1 ≤ year) (hq : 1 ≤ quarter) :
    quarterEnd year quarter a = .ok d ↔ d.dayNumber = a.startDay year (quarter + 1) - 1 := by
  have hnext : 1 ≤ quarter + 1 := by omega
  simp only [quarterEnd, bind_eq_ok_iff, Anchor.boundary_eq_ok_iff hy hnext, atDay_eq_ok_iff]
  constructor
  · rintro ⟨_, ⟨-, rfl⟩, hd⟩
    exact hd
  · intro hd
    have hlast := d.representable_dayNumber.2
    exact ⟨_, ⟨by omega, rfl⟩, hd⟩

end Date

/-! ## The calls, under a definition with boundaries -/

/-- The anchor that a definition comes down to.  The custom definition has none, and neither has a
thing that is no definition. -/
def Value.anchor? : Value → Option Anchor
  | .anchor a _ _ => some a
  | .quarterDefinition d => d.anchor?
  | _ => none

namespace Call

variable {definition : Value} {a : Anchor}

/-- A definition with an anchor is never refused. -/
lemma anchorFor_eq_ok (h : definition.anchor? = some a) (function : String) :
    anchorFor function definition = .ok a := by
  cases definition with
  | anchor b _ _ =>
    cases h
    rfl
  | quarterDefinition d =>
    simp only [Value.anchor?] at h
    simp only [anchorFor, h]
  | _ => cases h

lemma resolveQuarter_moment (h : definition.anchor? = some a) (v : Moment) :
    resolveQuarter (.moment v) definition = liftM (Quarter.resolve v.date a) := by
  simp only [resolveQuarter, anchorFor_eq_ok h, Value.requireDate_moment, ok_bind]

lemma quarterOf_moment (h : definition.anchor? = some a) (v : Moment) :
    quarterOf (.moment v) definition = .ok (a.locate v.date.toYearMonthDay).2 := by
  simp only [quarterOf, anchorFor_eq_ok h, Value.requireDate_moment, ok_bind, pure_eq_ok]

lemma quarterStart_eq_ok_iff (h : definition.anchor? = some a) {y q : Numeral} {d : Date} :
    quarterStart (.number y) (.number q) definition = .ok d ↔
      (minYear ≤ y.value ∧ y.value ≤ maxYear) ∧ (1 ≤ q.value ∧ q.value ≤ 4) ∧
        d.dayNumber = a.startDay y.value q.value := by
  simp only [quarterStart, anchorFor_eq_ok h, ok_bind, Value.requireYear_number,
    Value.requireQuarter_number, bind_eq_ok_iff, liftM_eq_ok_iff, checkYear_eq_ok_iff,
    checkQuarter_eq_ok_iff, exists_checked_iff]
  refine and_congr_right fun hy => and_congr_right fun hq => ?_
  exact Date.quarterStart_eq_ok_iff hy.1 hq.1

lemma quarterEnd_eq_ok_iff (h : definition.anchor? = some a) {y q : Numeral} {d : Date} :
    quarterEnd (.number y) (.number q) definition = .ok d ↔
      (minYear ≤ y.value ∧ y.value ≤ maxYear) ∧ (1 ≤ q.value ∧ q.value ≤ 4) ∧
        d.dayNumber = a.startDay y.value (q.value + 1) - 1 := by
  simp only [quarterEnd, anchorFor_eq_ok h, ok_bind, Value.requireYear_number,
    Value.requireQuarter_number, bind_eq_ok_iff, liftM_eq_ok_iff, checkYear_eq_ok_iff,
    checkQuarter_eq_ok_iff, exists_checked_iff]
  refine and_congr_right fun hy => and_congr_right fun hq => ?_
  exact Date.quarterEnd_eq_ok_iff hy.1 hq.1

/-- What a date resolves to is the quarter between the boundaries of its year and index. -/
lemma quarter_bounds_of_resolveQuarter (h : definition.anchor? = some a) {v : Moment} {r : Quarter}
    (hr : resolveQuarter (.moment v) definition = .ok r) {y q : Numeral} (hy : y.value = r.year)
    (hq : q.value = r.index) :
    quarterStart (.number y) (.number q) definition = .ok r.start ∧
      quarterEnd (.number y) (.number q) definition = .ok r.stop := by
  rw [resolveQuarter_moment h, liftM_eq_ok_iff] at hr
  obtain ⟨hyear, hfound, hstart, hstop⟩ := Quarter.resolve_eq_ok_iff.1 hr
  have hindex := a.locate_index v.date.toYearMonthDay
  have hlast : r.year ≤ maxYear := by
    have hle := a.fiscalYearOf_le v.date.toYearMonthDay
    rw [← a.locate_year, hfound] at hle
    exact Int.le_trans hle v.date.valid.1.2
  rw [hfound] at hindex
  rw [quarterStart_eq_ok_iff h, quarterEnd_eq_ok_iff h, hy, hq]
  exact ⟨⟨⟨hyear, hlast⟩, hindex, hstart⟩, ⟨⟨hyear, hlast⟩, hindex, hstop⟩⟩

/-- **A date lies between the boundaries of the one quarter found for it**, and of no other. -/
theorem quarter_holds_iff (h : definition.anchor? = some a) (v : Moment) {y q : Numeral}
    {first last : Date} (hfirst : quarterStart (.number y) (.number q) definition = .ok first)
    (hlast : quarterEnd (.number y) (.number q) definition = .ok last) :
    (first.dayNumber ≤ v.dayNumber ∧ v.dayNumber ≤ last.dayNumber) ↔
      a.locate v.date.toYearMonthDay = (y.value, q.value) := by
  obtain ⟨-, hq, hstart⟩ := (quarterStart_eq_ok_iff h).1 hfirst
  obtain ⟨-, -, hstop⟩ := (quarterEnd_eq_ok_iff h).1 hlast
  have hproper := v.date.valid.2
  rw [hstart, hstop]
  constructor
  · rintro ⟨hlow, hhigh⟩
    exact Anchor.locate_eq hproper hq hlow (Int.lt_of_le_sub_one hhigh)
  · intro hfound
    have hlow := Anchor.startDay_locate_le (a := a) hproper
    have hhigh := Anchor.lt_startDay_locate (a := a) hproper
    rw [hfound] at hlow hhigh
    exact ⟨hlow, Int.le_sub_one_of_lt hhigh⟩

end Call

/-! ## Resolving, in full -/

/-- **A date resolves to the one quarter that contains it.**  For every definition with boundaries
and every date, the index of the date's quarter is always known, and together with the fiscal year
of the date it names the quarter of the unbounded line that holds it.  The date resolves exactly when
that year is at least 1 and the last day of that quarter is representable, and is out of range
otherwise.  What it resolves to has that year and that index, contains the date, and is the only
quarter whose boundaries do. -/
theorem resolveQuarter_exact {definition : Value} {a : Anchor} (h : definition.anchor? = some a)
    (v : Moment) :
    ∃ q, Call.quarterOf (.moment v) definition = .ok q ∧ (1 ≤ q ∧ q ≤ 4) ∧
      (a.startDay (a.fiscalYearOf v.date.toYearMonthDay) q ≤ v.dayNumber ∧
        v.dayNumber < a.startDay (a.fiscalYearOf v.date.toYearMonthDay) (q + 1)) ∧
      ((∃ r, Call.resolveQuarter (.moment v) definition = .ok r) ↔
        1 ≤ a.fiscalYearOf v.date.toYearMonthDay ∧
          a.startDay (a.fiscalYearOf v.date.toYearMonthDay) (q + 1) - 1 ≤ maxDay) ∧
      (∀ f, Call.resolveQuarter (.moment v) definition = .error f → f.kind = .range) ∧
      ∀ r, Call.resolveQuarter (.moment v) definition = .ok r →
        r.year = a.fiscalYearOf v.date.toYearMonthDay ∧ r.index = q ∧
        (r.start.dayNumber ≤ v.dayNumber ∧ v.dayNumber ≤ r.stop.dayNumber) ∧
        ∀ year quarter : Numeral,
          (∃ first last,
            Call.quarterStart (.number year) (.number quarter) definition = .ok first ∧
            Call.quarterEnd (.number year) (.number quarter) definition = .ok last ∧
            first.dayNumber ≤ v.dayNumber ∧ v.dayNumber ≤ last.dayNumber) ↔
          year.value = r.year ∧ quarter.value = r.index := by
  have hproper := v.date.valid.2
  have hcall := Call.resolveQuarter_moment h v
  rw [← a.locate_year v.date.toYearMonthDay]
  refine ⟨_, Call.quarterOf_moment h v, a.locate_index _, ?_, ?_, ?_, ?_⟩
  · exact ⟨Anchor.startDay_locate_le hproper, Anchor.lt_startDay_locate hproper⟩
  · simp only [hcall, liftM_eq_ok_iff]
    exact Quarter.exists_resolve_iff
  · intro f hf
    rw [hcall, liftM_eq_error_iff] at hf
    obtain ⟨c, hc, rfl⟩ := hf
    rw [Cause.fault_kind (Quarter.resolve_writable hc)]
    exact Quarter.resolve_error_kind hc
  · intro r hr
    have hresolve : Quarter.resolve v.date a = .ok r := by rwa [hcall, liftM_eq_ok_iff] at hr
    have hfound := (Quarter.resolve_eq_ok_iff.1 hresolve).2.1
    obtain ⟨hfirst, hlast⟩ := Call.quarter_bounds_of_resolveQuarter h hr
      (y := .plain r.year) (q := .plain r.index) rfl rfl
    have hcontains := (Call.quarter_holds_iff h v hfirst hlast).2 hfound
    refine ⟨by rw [hfound], by rw [hfound], hcontains, fun year quarter => ⟨?_, ?_⟩⟩
    · rintro ⟨first, last, hfirst', hlast', hcontains'⟩
      have hsame := (Call.quarter_holds_iff h v hfirst' hlast').1 hcontains'
      rw [hfound, Prod.mk.injEq] at hsame
      exact ⟨hsame.1.symm, hsame.2.symm⟩
    · rintro ⟨hy, hq⟩
      obtain ⟨hfirst', hlast'⟩ := Call.quarter_bounds_of_resolveQuarter h hr hy hq
      exact ⟨r.start, r.stop, hfirst', hlast', hcontains⟩

/-- A fiscal year from 28 November, with a quarter that starts on 28 February. -/
def Anchor.lateNovember : Anchor where
  month := 11
  day := 28
  month_range := by decide
  day_range := by decide

/-- The day before the anchor belongs to the last quarter of the year before. -/
theorem resolveQuarter_exact_lateNovember :
    (Value.ofAnchor .lateNovember).anchor? = some .lateNovember ∧
      ∃ r, Call.resolveQuarter (.date ⟨⟨2025, 11, 27⟩, by decide⟩) (.ofAnchor .lateNovember) = .ok r ∧
        (r.year = 2024 ∧ r.index = 4) ∧
        r.start.dayNumber ≤ 739581 ∧ 739581 ≤ r.stop.dayNumber := by
  have hanchor : (Value.ofAnchor .lateNovember).anchor? = some .lateNovember := rfl
  obtain ⟨q, hq, -, -, hresolves, -, hresult⟩ :=
    resolveQuarter_exact hanchor (.ofDate ⟨⟨2025, 11, 27⟩, by decide⟩)
  cases hq
  obtain ⟨r, hr⟩ := hresolves.2 (by decide)
  obtain ⟨hyear, hindex, hcontains, -⟩ := hresult r hr
  exact ⟨hanchor, r, hr, ⟨hyear, hindex⟩, hcontains⟩

end BusinessCalendar
