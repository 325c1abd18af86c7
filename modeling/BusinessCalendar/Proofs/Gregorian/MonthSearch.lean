import BusinessCalendar.Proofs.Gregorian.Correspondence

/-!
# The month search stays in its table

The month of a day is searched in a table with thirteen entries, the days of a year up to the end of each
month, from a first guess on.  Looked up in the table as it stands, an entry can be missing, and a search
that comes to a missing entry has failed (`searchMonth?`).  **The search for the month of a day never
fails**: it stops at the one month that holds the day (`monthSearch_safe`).

What it rests on is that the day of the year which the cycles leave lies inside the year that they lead
to, at the ends of 4, 100 and 400 years as well (`CyclePosition.dayOfYear_bounds`); that the guess does
not overshoot (`monthGuess_bounds`); and that each turn of the search keeps the days before the month in
hand (`searchMonth?_spec`).
-/

namespace BusinessCalendar

/-! ## The table -/

/-- The days of a year up to the end of each month; the first entry is the start of the year. -/
def monthTable (leap : Bool) : List Int :=
  if leap then [0, 31, 60, 91, 121, 152, 182, 213, 244, 274, 305, 335, 366]
  else [0, 31, 59, 90, 120, 151, 181, 212, 243, 273, 304, 334, 365]

/-- The entry of a month, if the table has one. -/
def tableAt? (leap : Bool) (month : Int) : Option Int :=
  if 0 ≤ month then (monthTable leap)[month.toNat]? else none

/-- **The table has the entries 0 to 12.** -/
theorem tableAt?_eq_some_iff {leap : Bool} {month e : Int} :
    tableAt? leap month = some e ↔ (0 ≤ month ∧ month ≤ 12) ∧ daysThrough leap month = e := by
  by_cases h : 0 ≤ month ∧ month ≤ 12
  · have hentry : tableAt? leap month = some (daysThrough leap month) := by
      rcases Int.lt_or_eq_of_le h.1 with hpos | rfl
      · rcases month_cases hpos h.2 with
          rfl | rfl | rfl | rfl | rfl | rfl | rfl | rfl | rfl | rfl | rfl | rfl <;>
          cases leap <;> rfl
      · cases leap <;> rfl
    rw [hentry, Option.some.injEq, and_iff_right h]
  · have hentry : tableAt? leap month = none := by
      rw [tableAt?]
      split
      · have hlength : (monthTable leap).length = 13 := by cases leap <;> rfl
        exact List.getElem?_eq_none (by omega)
      · rfl
    rw [hentry]
    exact iff_of_false nofun fun hin => h hin.1

/-- A day of a year, counted from 0, lies in a month. -/
def HoldsDay (leap : Bool) (day month : Int) : Prop :=
  ∃ low high, tableAt? leap (month - 1) = some low ∧ tableAt? leap month = some high ∧
    low ≤ day ∧ day < high

lemma holdsDay_iff {leap : Bool} {day month : Int} :
    HoldsDay leap day month ↔
      (1 ≤ month ∧ month ≤ 12) ∧ daysThrough leap (month - 1) ≤ day ∧ day < daysThrough leap month := by
  simp only [HoldsDay, tableAt?_eq_some_iff]
  constructor
  · rintro ⟨_, _, ⟨hm, rfl⟩, ⟨hm', rfl⟩, hlow, hhigh⟩
    exact ⟨⟨by omega, hm'.2⟩, hlow, hhigh⟩
  · rintro ⟨hm, hlow, hhigh⟩
    exact ⟨_, _, ⟨by omega, rfl⟩, ⟨by omega, rfl⟩, hlow, hhigh⟩

/-- A day lies in one month only. -/
lemma HoldsDay.unique {leap : Bool} {day m k : Int} (hm : HoldsDay leap day m)
    (hk : HoldsDay leap day k) : m = k := by
  obtain ⟨hm, hlow, hhigh⟩ := holdsDay_iff.1 hm
  obtain ⟨hk, hlow', hhigh'⟩ := holdsDay_iff.1 hk
  rcases Int.lt_trichotomy m k with h | h | h
  · have := daysThrough_mono leap (m := m) (k := k - 1) (by omega) (by omega) (by omega)
    omega
  · exact h
  · have := daysThrough_mono leap (m := k) (k := m - 1) (by omega) (by omega) (by omega)
    omega

/-! ## The search -/

/-- The first month, from a guess on, whose end lies after the day.  Each turn looks up one entry, and
where there is none the search has failed. -/
def searchMonth? (leap : Bool) (day month : Int) : Option Int :=
  match h : tableAt? leap month with
  | none => none
  | some high => if day < high then some month else searchMonth? leap day (month + 1)
termination_by (13 - month).toNat
decreasing_by
  have := (tableAt?_eq_some_iff.1 h).1
  omega

/-- **From a guess that does not overshoot, the search stops at the month that holds the day.**  The
months passed over end before the day or on it, so that the last one of them is never December. -/
theorem searchMonth?_spec (leap : Bool) (day month : Int) (hguess : 1 ≤ month ∧ month ≤ 12)
    (hlow : daysThrough leap (month - 1) ≤ day) (hinside : day < daysThrough leap 12) :
    ∃ k, searchMonth? leap day month = some k ∧ month ≤ k ∧ HoldsDay leap day k := by
  fun_induction searchMonth? leap day month with
  | case1 month hnone =>
    have hentry : tableAt? leap month = some (daysThrough leap month) :=
      tableAt?_eq_some_iff.2 ⟨⟨by omega, hguess.2⟩, rfl⟩
    rw [hnone] at hentry
    cases hentry
  | case2 month high hentry hstop =>
    obtain ⟨-, rfl⟩ := tableAt?_eq_some_iff.1 hentry
    exact ⟨month, rfl, Int.le_refl month, holdsDay_iff.2 ⟨hguess, hlow, hstop⟩⟩
  | case3 month high hentry hpassed ih =>
    obtain ⟨-, rfl⟩ := tableAt?_eq_some_iff.1 hentry
    have hdecember : month ≠ 12 := by
      rintro rfl
      exact hpassed hinside
    obtain ⟨k, hk, hle, hholds⟩ := ih (by omega) (by rw [Int.add_sub_cancel]; omega)
    exact ⟨k, hk, by omega, hholds⟩

/-! ## The date of a day -/

namespace YearMonthDay

/-- The month of a day's date holds what the cycles leave of the day. -/
lemma holdsDay_ofDay (n : Int) :
    HoldsDay (CyclePosition.ofDay n).leap (CyclePosition.ofDay n).dayOfYear (ofDay n).month := by
  rw [CyclePosition.leap_ofDay]
  exact holdsDay_iff.2 (ofDay_month n)

/-- The calendar date of a day, with every entry looked up in the table. -/
def lookUp? (n : Int) : Option YearMonthDay := do
  let p := CyclePosition.ofDay n
  let month ← searchMonth? p.leap p.dayOfYear (p.dayOfYear / 32 + 1)
  let low ← tableAt? p.leap (month - 1)
  return { year := p.year, month, day := p.dayOfYear - low + 1 }

end YearMonthDay

/-- What keeps the month search inside the table, from where a day stands in the cycles to the date of
the day. -/
structure CyclePosition.SearchesSafely (p : CyclePosition) (d : YearMonthDay) : Prop where
  year : d.year = p.year
  /-- The table is the one of the year. -/
  leap : p.leap = isLeap p.year
  /-- The day of the year lies inside the year. -/
  inside : ∃ length, tableAt? p.leap 12 = some length ∧ 0 ≤ p.dayOfYear ∧ p.dayOfYear < length
  guess : 1 ≤ p.dayOfYear / 32 + 1 ∧ p.dayOfYear / 32 + 1 ≤ d.month
  stops : searchMonth? p.leap p.dayOfYear (p.dayOfYear / 32 + 1) = some d.month
  month_le : d.month ≤ 12
  /-- The month that the search stops at holds the day, and no other month does. -/
  holds : ∀ month, HoldsDay p.leap p.dayOfYear month ↔ month = d.month

lemma CyclePosition.searchesSafely (n : Int) :
    (ofDay n).SearchesSafely (YearMonthDay.ofDay n) := by
  have hday := dayOfYear_bounds n
  have hguess := monthGuess_bounds (ofDay n).leap hday.1 hday.2
  have hholds := YearMonthDay.holdsDay_ofDay n
  obtain ⟨k, hk, hle, hfound⟩ := searchMonth?_spec _ _ _ hguess.1 hguess.2 hday.2
  obtain rfl := hfound.unique hholds
  constructor
  case year => rfl
  case leap => exact leap_ofDay n
  case inside => exact ⟨_, tableAt?_eq_some_iff.2 ⟨by decide, rfl⟩, hday⟩
  case guess => exact ⟨hguess.1.1, hle⟩
  case stops => exact hk
  case month_le => exact (YearMonthDay.ofDay_proper n).1.2
  case holds =>
    intro month
    constructor
    · exact fun h => h.unique hholds
    · rintro rfl
      exact hholds

/-- Looked up in the table, the date of a day is the date that the day has. -/
lemma YearMonthDay.lookUp?_eq (n : Int) : lookUp? n = some (ofDay n) := by
  have hsafe := CyclePosition.searchesSafely n
  obtain ⟨low, high, hlow, -⟩ := holdsDay_ofDay n
  rw [lookUp?]
  simp only [hsafe.stops, hlow, Option.bind_eq_bind, Option.bind_some, Option.pure_def]
  obtain ⟨-, rfl⟩ := tableAt?_eq_some_iff.1 hlow
  rfl

/-- **The month search is safe and ends.**  For every day number, what the cycles leave of it lies inside
the year that they lead to, in the table of that year; the first guess is at most the month of the date;
and the search stops at that month, which is the one month that holds the day.  No entry that is looked up
on the way to the date is missing. -/
theorem monthSearch_safe {n : Numeral} (h : 0 ≤ n.value ∧ n.value ≤ 3652058) :
    ∃ d, Call.fromDayNumber (.number n) = .ok d ∧ YearMonthDay.lookUp? n.value = some d ∧
      (CyclePosition.ofDay n.value).SearchesSafely d :=
  ⟨_, Call.fromDayNumber_eq_ok_iff.2 ⟨h, rfl⟩, YearMonthDay.lookUp?_eq n.value,
    CyclePosition.searchesSafely n.value⟩

/-- The last day of 400 years, which is the last of a century and of four years as well, is day 365 of a
leap year, counted from 0. -/
theorem monthSearch_safe_cycleEnd :
    (0 ≤ (146096 : Int) ∧ (146096 : Int) ≤ 3652058) ∧
      (CyclePosition.ofDay 146096).dayOfYear = 365 ∧
      ∃ d, Call.fromDayNumber (.int 146096) = .ok d ∧
        searchMonth? true 365 12 = some d.month ∧ d.month = 12 := by
  have h : 0 ≤ (146096 : Int) ∧ (146096 : Int) ≤ 3652058 := by decide
  obtain ⟨d, hd, -, hsafe⟩ := monthSearch_safe (n := .plain 146096) h
  have hholds : HoldsDay true 365 12 := holdsDay_iff.2 ⟨by decide, by decide, by decide⟩
  exact ⟨h, rfl, d, hd, hsafe.stops, ((hsafe.holds 12).1 hholds).symm⟩

end BusinessCalendar
