import BusinessCalendar.Proofs.Occurrence.Window
import BusinessCalendar.Proofs.Quarter.Tiling

/-!
# Weekdays in a quarter

A quarter is a window of 89 to 92 days, so every weekday falls on twelve to fourteen of them.  The
window is bounded by first days of quarters; which quarter a day of it belongs to is found from the
month and the day alone.  **The dates that resolve to a quarter are the days of its window**
(`resolvesTo_iff`), so an occurrence in a quarter resolves back to that quarter.

* `Moment.ResolvesTo` — the quarter of a date, by its fiscal year and its index.
* `countBetween_quarter` — how often a weekday falls in a quarter.
* `Call.nthInQuarter_eq` — an occurrence in a quarter is one between its first and its last day.
* **`nthInQuarter_indexes_days`** — the calls.
-/

namespace BusinessCalendar

/-- A date resolves to the quarter of that index in that fiscal year. -/
def Moment.ResolvesTo (v : Moment) (definition : Value) (year quarter : Int) : Prop :=
  ∃ r, Call.resolveQuarter (.moment v) definition = .ok r ∧ r.year = year ∧ r.index = quarter

section Quarter

variable {definition : Value} {a : Anchor} (h : definition.anchor? = some a)
  {year quarter : Numeral} {first last : Date}
  (hfirst : Call.quarterStart (.number year) (.number quarter) definition = .ok first)
  (hlast : Call.quarterEnd (.number year) (.number quarter) definition = .ok last)

include h hfirst hlast

/-! ## The window of a quarter -/

namespace Call

/-- The quarter between the first and the last day that are given for it. -/
lemma ofIndex_eq_ok :
    Quarter.ofIndex year.value quarter.value a =
      .ok { year := year.value, index := quarter.value, start := first, stop := last } := by
  obtain ⟨hyear, hquarter, hstart⟩ := (quarterStart_eq_ok_iff h).1 hfirst
  obtain ⟨-, -, hstop⟩ := (quarterEnd_eq_ok_iff h).1 hlast
  exact (Quarter.ofIndex_eq_ok_iff hyear.1 hquarter.1).2 ⟨rfl, rfl, hstart, hstop⟩

/-- **The dates that resolve to a quarter are those between its first and its last day.** -/
theorem resolvesTo_iff (v : Moment) :
    v.ResolvesTo definition year.value quarter.value ↔
      first.dayNumber ≤ v.dayNumber ∧ v.dayNumber ≤ last.dayNumber := by
  obtain ⟨hyear, hquarter, -⟩ := (quarterStart_eq_ok_iff h).1 hfirst
  constructor
  · rintro ⟨r, hr, hry, hri⟩
    rw [resolveQuarter_moment h, liftM_eq_ok_iff] at hr
    have hfound := (Quarter.resolve_eq_ok_iff.1 hr).2.1
    rw [hry, hri] at hfound
    exact (quarter_holds_iff h v hfirst hlast).2 hfound
  · rintro ⟨hlow, hhigh⟩
    refine ⟨{ year := year.value, index := quarter.value, start := first, stop := last }, ?_, rfl,
      rfl⟩
    rw [resolveQuarter_moment h, liftM_eq_ok_iff]
    exact Quarter.resolve_of_contains hyear.1 hquarter (ofIndex_eq_ok h hfirst hlast) hlow hhigh

lemma nthInQuarter_eq (weekday occurrence : Value) :
    nthInQuarter (.number year) (.number quarter) weekday occurrence definition =
      nthBetween (.date first) (.date last) weekday occurrence := by
  obtain ⟨hyear, hquarter, -⟩ := (quarterStart_eq_ok_iff h).1 hfirst
  rw [nthInQuarter, anchorFor_eq_ok h, ok_bind, Value.requireYear_eq_ok _ hyear, ok_bind,
    Value.requireQuarter_number, checkQuarter_eq_ok_iff.2 ⟨hquarter, rfl⟩, liftM_ok, ok_bind,
    ofIndex_eq_ok h hfirst hlast, liftM_ok, ok_bind]
  rfl

variable {weekday k : Numeral} {w : Weekday} (hw : weekday.value = w.index)

include hw

lemma nthInQuarter_eq_ok_iff {d : Date} :
    nthInQuarter (.number year) (.number quarter) (.number weekday) (.number k) definition = .ok d ↔
      HasOccurrence (countBetween first.dayNumber last.dayNumber w) k.value ∧
        d.dayNumber = occurrence first.dayNumber last.dayNumber w k.value := by
  rw [nthInQuarter_eq h hfirst hlast]
  exact nthBetween_eq_ok_iff hw

lemma exists_nthInQuarter_iff :
    (∃ d, nthInQuarter (.number year) (.number quarter) (.number weekday) (.number k) definition =
      .ok d) ↔ HasOccurrence (countBetween first.dayNumber last.dayNumber w) k.value := by
  simp only [nthInQuarter_eq h hfirst hlast]
  exact exists_nthBetween_iff hw

lemma nthInQuarter_refusal {f : Fault}
    (hf : nthInQuarter (.number year) (.number quarter) (.number weekday) (.number k) definition =
      .error f) :
    (k.Writable → f.kind = .range ∧ f.code? = some .ordinalNotInPeriod) ∧
      (¬k.Writable → f = .wording .tooManyDigits) := by
  rw [nthInQuarter_eq h hfirst hlast] at hf
  exact nthBetween_refusal hw hf

/-- An occurrence is a day of the quarter on the weekday. -/
lemma mem_daysIn_of_nthInQuarter {d : Date}
    (hd : nthInQuarter (.number year) (.number quarter) (.number weekday) (.number k) definition =
      .ok d) : d.dayNumber ∈ w.daysIn first.dayNumber last.dayNumber := by
  obtain ⟨hk, hday⟩ := (nthInQuarter_eq_ok_iff h hfirst hlast hw).1 hd
  have hmem := occurrence_mem_iff.2 hk
  rw [HasOccurrence] at hk
  rw [hday, Weekday.mem_daysIn]
  exact ⟨hmem, onDay_occurrence (by omega)⟩

end Call

/-- Twelve weeks fit into a quarter, and it is never longer than thirteen weeks and a day. -/
lemma countBetween_quarter (w : Weekday) :
    12 ≤ countBetween first.dayNumber last.dayNumber w ∧
      countBetween first.dayNumber last.dayNumber w ≤ 14 := by
  obtain ⟨-, -, hstart⟩ := (Call.quarterStart_eq_ok_iff h).1 hfirst
  obtain ⟨-, -, hstop⟩ := (Call.quarterEnd_eq_ok_iff h).1 hlast
  have hlength := a.startDay_step year.value quarter.value
  have hbounds := countBetween_bounds w first.dayNumber last.dayNumber (by omega)
  omega

end Quarter

/-! ## The calls -/

/-- The laws of the occurrences of a weekday in a quarter; `days` are the days of the quarter on
that weekday, in ascending order. -/
structure IndexesDaysOfQuarter (definition : Value) (year quarter weekday : Numeral) (w : Weekday)
    (days : List Int) : Prop where
  ascending : days.Pairwise (· < ·)
  /-- They are the dates on the weekday that resolve to the quarter. -/
  mem_iff : ∀ d : Date, d.dayNumber ∈ days ↔
    d.weekday = w ∧ (Moment.ofDate d).ResolvesTo definition year.value quarter.value
  length : days.length = 12 ∨ days.length = 13 ∨ days.length = 14
  /-- An occurrence exists exactly when it is counted up to the number of those days, from either
  end. -/
  exists_iff : ∀ k : Numeral,
    (∃ d, Call.nthInQuarter (.number year) (.number quarter) (.number weekday) (.number k)
      definition = .ok d) ↔ 1 ≤ k.value.natAbs ∧ k.value.natAbs ≤ days.length
  /-- Any other number is refused with its code, unless it is too long to be written out. -/
  refusal : ∀ (k : Numeral) (f : Fault),
    Call.nthInQuarter (.number year) (.number quarter) (.number weekday) (.number k)
      definition = .error f →
      (k.Writable → f.kind = .range ∧ f.code? = some .ordinalNotInPeriod) ∧
        (¬k.Writable → f = .wording .tooManyDigits)
  /-- It is the day in that place, from the front or from the back, and resolves to the quarter. -/
  place : ∀ (k : Numeral) (d : Date),
    Call.nthInQuarter (.number year) (.number quarter) (.number weekday) (.number k)
      definition = .ok d →
      d.weekday = w ∧ (Moment.ofDate d).ResolvesTo definition year.value quarter.value ∧
        (0 < k.value → days[(k.value - 1).toNat]? = some d.dayNumber) ∧
        (k.value < 0 → days.reverse[(-k.value - 1).toNat]? = some d.dayNumber)
  first : ∃ d, Call.firstInQuarter (.number year) (.number quarter) (.number weekday) definition =
    .ok d ∧ days.head? = some d.dayNumber
  last : ∃ d, Call.lastInQuarter (.number year) (.number quarter) (.number weekday) definition =
    .ok d ∧ days.getLast? = some d.dayNumber

/-- **A quarter has twelve to fourteen days on each weekday, and its occurrences index them.**  For
every definition with boundaries and every quarter of which both ends are dates, the days of the
quarter on a weekday are the dates on it that resolve to that quarter.  Counted from the start or
from the end, an occurrence is the day in that place, and there is one exactly for each number up to
the number of days; the first and the last always exist. -/
theorem nthInQuarter_indexes_days {definition : Value} {a : Anchor}
    (h : definition.anchor? = some a) {year quarter : Numeral} {first last : Date}
    (hfirst : Call.quarterStart (.number year) (.number quarter) definition = .ok first)
    (hlast : Call.quarterEnd (.number year) (.number quarter) definition = .ok last)
    (weekday : Numeral) (w : Weekday) (hw : weekday.value = w.index) :
    IndexesDaysOfQuarter definition year quarter weekday w
      (w.daysIn first.dayNumber last.dayNumber) := by
  have hcount := countBetween_quarter h hfirst hlast w
  have hlength := length_daysIn w first.dayNumber last.dayNumber
  have hmem : ∀ d : Date, d.dayNumber ∈ w.daysIn first.dayNumber last.dayNumber ↔
      d.weekday = w ∧ (Moment.ofDate d).ResolvesTo definition year.value quarter.value := by
    intro d
    have hresolves := Call.resolvesTo_iff h hfirst hlast (.ofDate d)
    exact (Weekday.mem_daysIn.trans and_comm).trans (and_congr_right fun _ => hresolves.symm)
  constructor
  case ascending => exact Weekday.pairwise_daysIn
  case mem_iff => exact hmem
  case length => omega
  case exists_iff =>
    intro k
    rw [← hasOccurrence_iff_natAbs, hlength]
    exact Call.exists_nthInQuarter_iff h hfirst hlast hw
  case refusal => exact fun k f => Call.nthInQuarter_refusal h hfirst hlast hw
  case place =>
    intro k d hd
    obtain ⟨hk, hday⟩ := (Call.nthInQuarter_eq_ok_iff h hfirst hlast hw).1 hd
    obtain ⟨hweekday, hresolves⟩ :=
      (hmem d).1 (Call.mem_daysIn_of_nthInQuarter h hfirst hlast hw hd)
    rw [HasOccurrence] at hk
    refine ⟨hweekday, hresolves, fun hpos => ?_, fun hneg => ?_⟩
    · rw [hday]
      exact getElem?_daysIn (by omega) (by omega)
    · rw [hday]
      exact getElem?_reverse_daysIn (by omega) (by omega)
  case first =>
    obtain ⟨d, hd⟩ := (Call.exists_nthInQuarter_iff h hfirst hlast hw (k := .plain 1)).2
      (.inl ⟨by decide, by rw [Numeral.value_plain]; omega⟩)
    obtain ⟨-, hday⟩ := (Call.nthInQuarter_eq_ok_iff h hfirst hlast hw).1 hd
    refine ⟨d, hd, ?_⟩
    rw [hday, List.head?_eq_getElem?]
    exact getElem?_daysIn (k := 1) (by decide) (by omega)
  case last =>
    obtain ⟨d, hd⟩ := (Call.exists_nthInQuarter_iff h hfirst hlast hw (k := .plain (-1))).2
      (.inr ⟨by rw [Numeral.value_plain]; omega, by decide⟩)
    obtain ⟨-, hday⟩ := (Call.nthInQuarter_eq_ok_iff h hfirst hlast hw).1 hd
    refine ⟨d, hd, ?_⟩
    rw [hday]
    exact getLast?_daysIn (by omega)

def Date.february28 : Date := { year := 2025, month := 2, day := 28, valid := by decide }

def Date.may27 : Date := { year := 2025, month := 5, day := 27, valid := by decide }

/-- A quarter of thirteen Fridays that starts on one: counted back from the end the thirteenth is
the first, and there is no fourteenth. -/
theorem nthInQuarter_indexes_days_lateNovember :
    (Value.ofAnchor .lateNovember).anchor? = some .lateNovember ∧
      Call.quarterStart (.int 2024) (.int 2) (.ofAnchor .lateNovember) = .ok .february28 ∧
      Call.quarterEnd (.int 2024) (.int 2) (.ofAnchor .lateNovember) = .ok .may27 ∧
      (∃ d, Call.nthInQuarter (.int 2024) (.int 2) (.weekday .friday) (.int (-13))
        (.ofAnchor .lateNovember) = .ok d ∧ d.dayNumber = Date.february28.dayNumber) ∧
      ¬∃ d, Call.nthInQuarter (.int 2024) (.int 2) (.weekday .friday) (.int 14)
        (.ofAnchor .lateNovember) = .ok d := by
  have hanchor : (Value.ofAnchor .lateNovember).anchor? = some .lateNovember := rfl
  have hfirst : Call.quarterStart (.int 2024) (.int 2) (.ofAnchor .lateNovember) =
      .ok .february28 := (Call.quarterStart_eq_ok_iff hanchor).2 (by decide)
  have hlast : Call.quarterEnd (.int 2024) (.int 2) (.ofAnchor .lateNovember) = .ok .may27 :=
    (Call.quarterEnd_eq_ok_iff hanchor).2 (by decide)
  have hindexes := nthInQuarter_indexes_days hanchor hfirst hlast (.weekday .friday) .friday rfl
  have hdays : Weekday.friday.daysIn Date.february28.dayNumber Date.may27.dayNumber =
      (List.range 13).map fun i : Nat => 739309 + 7 * (i : Int) := by decide
  rw [hdays] at hindexes
  obtain ⟨d, hd⟩ := (hindexes.exists_iff (.plain (-13))).2 (by decide)
  obtain ⟨-, -, -, hplace⟩ := hindexes.place (.plain (-13)) d hd
  refine ⟨hanchor, hfirst, hlast, ⟨d, hd, (Option.some.inj (hplace (by decide))).symm⟩, ?_⟩
  exact fun hfourteenth => absurd ((hindexes.exists_iff (.plain 14)).1 hfourteenth) (by decide)

end BusinessCalendar
