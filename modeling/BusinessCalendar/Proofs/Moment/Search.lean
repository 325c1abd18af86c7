import BusinessCalendar.Proofs.Week.Line

/-!
# Searching for weekdays

Forward and backward searches measure their distance in opposite directions, the strict ones read a
distance of none as a week, and the nearest day is the closer of two.  **All five are one search
backwards**, which starts a fixed number of days later (`add_daysForward`,
`add_orFullWeek_daysForward`, `sub_orFullWeek_daysBackward`, `add_nearestDistance`): of any seven
days in a row one falls on the weekday, and each search looks at seven days of its own.

* `isGreatest_weekStart`, `isLeast_weekStart` — what that one search finds, from either end.
* `abs_sub_le_three_iff` — the only day on a weekday at most three days away.
* **`searches_find_extremes`** — the calls, and how they fit together.
-/

namespace BusinessCalendar

/-! ## Seven days in a row -/

namespace Weekday

variable (w : Weekday) (n : Int)

/-- The start of a day's week is the last day on the weekday up to that day. -/
lemma isGreatest_weekStart : IsGreatest {d | d ≤ n ∧ onDay d = w} (w.weekStart n) := by
  refine ⟨⟨(w.weekStart_bounds n).1, w.onDay_weekStart n⟩, ?_⟩
  rintro d ⟨hd, hday⟩
  have hmono := w.weekStart_mono hd
  rwa [w.weekStart_of_onDay hday] at hmono

/-- It is also the first one among the seven days that end with that day. -/
lemma isLeast_weekStart : IsLeast {d | n - 6 ≤ d ∧ onDay d = w} (w.weekStart n) := by
  have hbounds := w.weekStart_bounds n
  refine ⟨⟨by omega, w.onDay_weekStart n⟩, ?_⟩
  rintro d ⟨hd, hday⟩
  by_cases hlate : n < d
  · omega
  · -- a match among the seven days is the start of the week, which is the only one
    exact Int.le_of_eq (w.weekStart_eq_iff.2 ⟨hday, by omega, by omega⟩)

/-- One day on the weekday is at most three days away: the last one up to three days later. -/
lemma abs_sub_le_three_iff {d : Int} :
    (onDay d = w ∧ |d - n| ≤ 3) ↔ d = w.weekStart (n + 3) := by
  rw [@eq_comm _ d, weekStart_eq_iff, abs_le]
  refine and_congr_right fun _ => ?_
  omega

/-! ## The distances -/

lemma add_daysForward : n + w.daysForward n = w.weekStart (n + 6) := by
  simp only [weekStart, daysForward, daysBackward]
  omega

lemma add_orFullWeek_daysForward : n + orFullWeek (w.daysForward n) = w.weekStart (n + 7) := by
  simp only [weekStart, orFullWeek, daysForward, daysBackward]
  omega

lemma sub_orFullWeek_daysBackward : n - orFullWeek (w.daysBackward n) = w.weekStart (n - 1) := by
  simp only [weekStart, orFullWeek, daysBackward]
  omega

/-- The distance to the closer one of the days before and after. -/
def nearestDistance : Int :=
  if w.daysBackward n ≤ w.daysForward n then -w.daysBackward n else w.daysForward n

lemma add_nearestDistance : n + w.nearestDistance n = w.weekStart (n + 3) := by
  simp only [weekStart, nearestDistance, daysForward, daysBackward]
  omega

end Weekday

lemma Moment.nearest_eq (m : Moment) (w : Weekday) :
    m.nearest w = m.shift (w.nearestDistance m.dayNumber) := by
  rw [nearest, Weekday.nearestDistance]
  split <;> rfl

/-! ## The calls -/

namespace Call

variable {m : Moment} {weekday : Numeral} {w : Weekday} (h : weekday.value = w.index)

include h

lemma nextOnOrAfter_reaches :
    m.Reaches (w.weekStart (m.dayNumber + 6)) (nextOnOrAfter (.moment m) (.number weekday)) :=
  search_reaches h rfl (w.add_daysForward _) (by omega)

lemma previousOnOrBefore_reaches :
    m.Reaches (w.weekStart m.dayNumber) (previousOnOrBefore (.moment m) (.number weekday)) :=
  search_reaches h rfl (Int.sub_eq_add_neg).symm (by omega)

lemma strictlyNext_reaches :
    m.Reaches (w.weekStart (m.dayNumber + 7)) (strictlyNext (.moment m) (.number weekday)) :=
  search_reaches h rfl (w.add_orFullWeek_daysForward _) (by omega)

lemma strictlyPrevious_reaches :
    m.Reaches (w.weekStart (m.dayNumber - 1)) (strictlyPrevious (.moment m) (.number weekday)) :=
  search_reaches h rfl (Int.sub_eq_add_neg.symm.trans (w.sub_orFullWeek_daysBackward _)) (by omega)

lemma nearest_reaches :
    m.Reaches (w.weekStart (m.dayNumber + 3)) (nearest (.moment m) (.number weekday)) :=
  search_reaches h (m.nearest_eq w) (w.add_nearestDistance _) (by omega)

/-- The first day on a weekday from the next day on. -/
lemma shiftDays_nextOnOrAfter_reaches :
    m.Reaches (w.weekStart (m.dayNumber + 7)) (shiftDays (.moment m) (.int 1) >>= fun r =>
      nextOnOrAfter (.moment r) (.number weekday)) := by
  have hlater := (w.weekStart_bounds (m.dayNumber + 7)).2
  have hfirst := m.representable_dayNumber.1
  have hone : (Numeral.plain 1).Writable := by decide
  have htomorrow : m.Reaches (m.dayNumber + 1) (shiftDays (.moment m) (.int 1)) :=
    shiftDays_reaches m hone
  -- from the last date there is no next day, and no match after it either
  refine htomorrow.bind (fun r hday => ?_) fun hout hday => hout ?_
  · have hnext := nextOnOrAfter_reaches (m := r) h
    rwa [hday, Int.add_assoc] at hnext
  · exact ⟨by omega, Int.le_trans (by omega) hday.2⟩

end Call

/-- The laws of the five searches for a weekday from a moment.  Each leads to a day of the unbounded
line, and fails exactly when that day is not representable. -/
structure Moment.SearchesFind (m : Moment) (weekday : Numeral) (w : Weekday) : Prop where
  nextOnOrAfter : ∃ day, IsLeast {d | m.dayNumber ≤ d ∧ Weekday.onDay d = w} day ∧
    m.Reaches day (Call.nextOnOrAfter (.moment m) (.number weekday))
  previousOnOrBefore : ∃ day, IsGreatest {d | d ≤ m.dayNumber ∧ Weekday.onDay d = w} day ∧
    m.Reaches day (Call.previousOnOrBefore (.moment m) (.number weekday))
  strictlyNext : ∃ day, IsLeast {d | m.dayNumber < d ∧ Weekday.onDay d = w} day ∧
    m.Reaches day (Call.strictlyNext (.moment m) (.number weekday))
  strictlyPrevious : ∃ day, IsGreatest {d | d < m.dayNumber ∧ Weekday.onDay d = w} day ∧
    m.Reaches day (Call.strictlyPrevious (.moment m) (.number weekday))
  /-- The closest day is given or refused by itself, whatever the one on the other side is. -/
  nearest : ∃ day, (∀ d, (Weekday.onDay d = w ∧ |d - m.dayNumber| ≤ 3) ↔ d = day) ∧
    m.Reaches day (Call.nearest (.moment m) (.number weekday))
  strictlyNext_eq : Agree Eq (Call.strictlyNext (.moment m) (.number weekday))
    (Call.shiftDays (.moment m) (.int 1) >>= fun r =>
      Call.nextOnOrAfter (.moment r) (.number weekday))
  strictlyPrevious_strictlyNext : ∀ r,
    Call.strictlyNext (.moment m) (.number weekday) = .ok r →
      Agree Eq (Call.strictlyPrevious (.moment r) (.number weekday))
        (Call.previousOnOrBefore (.moment m) (.number weekday))

/-- **Searches find the extreme days on a weekday.**  The inclusive searches find the least day from
a day on and the greatest one up to it, the strict ones the least day after it and the greatest
before it, and the nearest day is the only one at most three days away.  A strict search forwards is
an inclusive one from the next day, and one back from there is an inclusive one from the day
itself. -/
theorem searches_find_extremes (m : Moment) (weekday : Numeral) (w : Weekday)
    (h : weekday.value = w.index) : m.SearchesFind weekday w where
  nextOnOrAfter := by
    refine ⟨_, ?_, Call.nextOnOrAfter_reaches h⟩
    have hleast := w.isLeast_weekStart (m.dayNumber + 6)
    rwa [Int.add_sub_cancel] at hleast
  previousOnOrBefore := ⟨_, w.isGreatest_weekStart _, Call.previousOnOrBefore_reaches h⟩
  strictlyNext := by
    refine ⟨_, ?_, Call.strictlyNext_reaches h⟩
    have hleast := w.isLeast_weekStart (m.dayNumber + 7)
    rwa [show m.dayNumber + 7 - 6 = m.dayNumber + 1 by omega] at hleast
  strictlyPrevious := by
    refine ⟨_, ?_, Call.strictlyPrevious_reaches h⟩
    have hgreatest := w.isGreatest_weekStart (m.dayNumber - 1)
    simp only [Int.le_sub_one_iff] at hgreatest
    exact hgreatest
  nearest := ⟨_, fun _ => w.abs_sub_le_three_iff _, Call.nearest_reaches h⟩
  strictlyNext_eq :=
    (Call.strictlyNext_reaches h).agree (Call.shiftDays_nextOnOrAfter_reaches h) rfl
  strictlyPrevious_strictlyNext r hr := by
    obtain ⟨hday, hclock⟩ := (Call.strictlyNext_reaches h).eq_ok_iff.1 hr
    have hback := Call.strictlyPrevious_reaches (m := r) h
    -- the day before the next match is still in the week of the day itself
    have hsame : w.weekStart (r.dayNumber - 1) = w.weekStart m.dayNumber := by
      have hbounds := w.weekStart_bounds m.dayNumber
      rw [hday, w.weekStart_add_seven, w.weekStart_eq_iff]
      exact ⟨w.onDay_weekStart _, by omega, by omega⟩
    rw [hsame] at hback
    exact hback.agree (Call.previousOnOrBefore_reaches h) hclock

/-- The first date, a Monday. -/
def Date.newYear1 : Date := { year := 1, month := 1, day := 1, valid := by decide }

/-- From the first date the nearest Sunday is the day before, which is no date, although the Sunday
after it is one. -/
theorem searches_find_extremes_newYear1 :
    (Numeral.weekday .sunday).value = Weekday.sunday.index ∧
      (∃ r, Call.nextOnOrAfter (.date .newYear1) (.weekday .sunday) = .ok r ∧
        r.date.weekday = .sunday) ∧
      ∃ f, Call.nearest (.date .newYear1) (.weekday .sunday) = .error f ∧ f.kind = .range := by
  have hsearches := searches_find_extremes (.ofDate .newYear1) (.weekday .sunday) .sunday rfl
  obtain ⟨day, ⟨⟨hlow, hsunday⟩, hleast⟩, hnext⟩ := hsearches.nextOnOrAfter
  obtain ⟨closest, hclosest, hnearest⟩ := hsearches.nearest
  have hhigh : day ≤ 6 := hleast ⟨by decide, by decide⟩
  obtain ⟨r, hr⟩ := hnext.exists_ok_iff.2 ⟨hlow, Int.le_trans hhigh (by decide)⟩
  obtain rfl : -1 = closest := (hclosest (-1)).1 ⟨by decide, by decide⟩
  obtain ⟨f, hf⟩ := hnearest.exists_error_iff.2 (by decide)
  refine ⟨rfl, ⟨r, hr, ?_⟩, f, hf, (hnearest.refusal hf).1⟩
  rw [← hsunday, ← (hnext.eq_ok_iff.1 hr).1]
  rfl

end BusinessCalendar
