import BusinessCalendar.Proofs.Week.Line

/-!
# Weekdays in a window of days

The n-th day on a weekday in a window is found by arithmetic alone: counting on from the first
match, counting back from the last one, and the number of matches are three separate formulas.
**They are the list of the matching days, read from its front, read from its back, and its length**
(`getElem?_daysIn`, `getElem?_reverse_daysIn`, `length_daysIn`).  A window may be shorter than a
week, or end before it starts.

* `Weekday.daysIn` — the days of a window on a weekday, by looking at each of its days.
* `lt_countBetween_iff` — what the count says about the days; the rest follows from it.
* `nthBetween_indexes_daysIn` — the call.
-/

namespace BusinessCalendar

namespace Weekday

/-- The days of a window that fall on a weekday, in ascending order. -/
def daysIn (w : Weekday) (first last : Int) : List Int :=
  (Int.range first (last + 1)).filter fun n => onDay n = w

variable {w : Weekday} {first last : Int}

lemma mem_daysIn {n : Int} :
    n ∈ w.daysIn first last ↔ (first ≤ n ∧ n ≤ last) ∧ onDay n = w := by
  rw [daysIn, List.mem_filter, Int.mem_range_iff, decide_eq_true_eq, Int.lt_add_one_iff]

lemma pairwise_daysIn : (w.daysIn first last).Pairwise (· < ·) := by
  refine List.Pairwise.filter _ ?_
  rw [Int.range, List.pairwise_map]
  refine List.pairwise_lt_range.imp fun h => ?_
  omega

end Weekday

/-- The numbers that so many matches have: 1, 2, … from the start and -1, -2, … from the end. -/
def HasOccurrence (available k : Int) : Prop := (1 ≤ k ∧ k ≤ available) ∨ (-available ≤ k ∧ k ≤ -1)

lemma hasOccurrence_iff_natAbs {available : Nat} {k : Int} :
    HasOccurrence available k ↔ 1 ≤ k.natAbs ∧ k.natAbs ≤ available := by
  rw [HasOccurrence]
  omega

section Window

variable {w : Weekday} {first last k : Int}

/-! ## The count -/

lemma countBetween_nonneg : 0 ≤ countBetween first last w := by
  simp only [countBetween]
  split <;> omega

/-- Of every seven days in a row one is a match. -/
lemma countBetween_bounds (w : Weekday) (first last : Int) (h : first ≤ last + 1) :
    (last + 1 - first) / 7 ≤ countBetween first last w ∧
      countBetween first last w ≤ (last + 1 - first + 6) / 7 := by
  have hforward := w.daysForward_bounds first
  simp only [countBetween]
  split <;> omega

/-- **There are more than `i` matches exactly when the one `i` weeks after the first is still in the
window.** -/
theorem lt_countBetween_iff (w : Weekday) (first last : Int) {i : Int} (hi : 0 ≤ i) :
    i < countBetween first last w ↔ first + w.daysForward first + 7 * i ≤ last := by
  simp only [countBetween]
  split <;> omega

/-- The matches are whole weeks after the first one. -/
lemma daysIn_eq_map : w.daysIn first last =
    (List.range (countBetween first last w).toNat).map
      fun i : Nat => first + w.daysForward first + 7 * i := by
  have hmatch := w.onDay_add_daysForward first
  have hforward := w.daysForward_bounds first
  refine Weekday.pairwise_daysIn.eq_of_mem_iff ?_ fun n => ?_
  · rw [List.pairwise_map]
    refine List.pairwise_lt_range.imp fun h => ?_
    omega
  · rw [Weekday.mem_daysIn, List.mem_map]
    constructor
    · rintro ⟨⟨hlow, hhigh⟩, hday⟩
      -- the first match is the earliest, so it is some whole weeks back
      have hweeks := (Weekday.onDay_eq_onDay_iff (first + w.daysForward first) n).1
        (hmatch.trans hday.symm)
      refine ⟨((n - (first + w.daysForward first)) / 7).toNat, ?_, by omega⟩
      have hcount := (lt_countBetween_iff w first last
        (i := (n - (first + w.daysForward first)) / 7) (by omega)).2 (by omega)
      rw [List.mem_range]
      omega
    · rintro ⟨i, hi, rfl⟩
      rw [List.mem_range] at hi
      have hlast := (lt_countBetween_iff w first last (i := i) (by omega)).1 (by omega)
      refine ⟨⟨by omega, hlast⟩, ?_⟩
      rw [← hmatch, Weekday.onDay_eq_onDay_iff, hmatch]
      omega

lemma length_daysIn (w : Weekday) (first last : Int) :
    ((w.daysIn first last).length : Int) = countBetween first last w := by
  rw [daysIn_eq_map, List.length_map, List.length_range, Int.toNat_of_nonneg countBetween_nonneg]

/-! ## The place of an occurrence -/

lemma onDay_occurrence (hk : k ≠ 0) : Weekday.onDay (occurrence first last w k) = w := by
  have hforward := w.onDay_add_daysForward first
  have hbackward := w.onDay_sub_daysBackward last
  rcases Int.lt_or_gt_of_ne hk with hneg | hpos
  · rw [occurrence, if_neg (by omega), if_pos hneg, ← hbackward, Weekday.onDay_eq_onDay_iff,
      hbackward]
    omega
  · rw [occurrence, if_pos hpos, ← hforward, Weekday.onDay_eq_onDay_iff, hforward]
    omega

lemma occurrence_of_pos (hk : 0 < k) :
    occurrence first last w k = first + w.daysForward first + 7 * (k - 1) := by
  rw [occurrence, if_pos hk]
  omega

/-- The last match is the last of the counted ones, so counting back from it meets them again. -/
lemma occurrence_of_neg (hk : k < 0) (hcount : 0 < countBetween first last w) :
    occurrence first last w k =
      first + w.daysForward first + 7 * (countBetween first last w + k) := by
  have hlast := lt_countBetween_iff w first last (i := countBetween first last w - 1) (by omega)
  have hnext := lt_countBetween_iff w first last (i := countBetween first last w) (by omega)
  have hback : w.weekStart last =
      first + w.daysForward first + 7 * (countBetween first last w - 1) := by
    refine w.weekStart_eq_iff.2 ⟨?_, by omega, by omega⟩
    have hmatch := w.onDay_add_daysForward first
    rw [← hmatch, Weekday.onDay_eq_onDay_iff, hmatch]
    omega
  rw [Weekday.weekStart] at hback
  rw [occurrence, if_neg (by omega), if_pos hk]
  omega

/-- An occurrence lies in the window exactly when there are as many matches as it counts. -/
lemma occurrence_mem_iff :
    (first ≤ occurrence first last w k ∧ occurrence first last w k ≤ last) ↔
      HasOccurrence (countBetween first last w) k := by
  have hforward := w.daysForward_bounds first
  rw [HasOccurrence]
  rcases lt_trichotomy k 0 with hneg | rfl | hpos
  · by_cases hcount : 0 < countBetween first last w
    · have hplace := occurrence_of_neg hneg hcount
      have hfirst := lt_countBetween_iff w first last (i := countBetween first last w + k)
      omega
    · -- an occurrence in the window would be a match, and there is none
      refine iff_of_false (fun hmem => hcount ?_) (by omega)
      rw [← length_daysIn]
      exact Int.natCast_pos.2 (List.length_pos_of_mem
        (Weekday.mem_daysIn.2 ⟨hmem, onDay_occurrence (Int.ne_of_lt hneg)⟩))
  · simp only [occurrence]
    omega
  · have hlast := lt_countBetween_iff w first last (i := k - 1) (by omega)
    rw [occurrence_of_pos hpos]
    omega

/-! ## The occurrences in order -/

/-- Counted from the start, an occurrence is the match in that place. -/
lemma getElem?_daysIn (hlow : 1 ≤ k) (hhigh : k ≤ countBetween first last w) :
    (w.daysIn first last)[(k - 1).toNat]? = some (occurrence first last w k) := by
  rw [daysIn_eq_map, List.getElem?_map, List.getElem?_range (by omega), Option.map_some,
    occurrence_of_pos (by omega), Int.toNat_of_nonneg (by omega)]

/-- Counted from the end, an occurrence is the match in that place from the back. -/
lemma getElem?_reverse_daysIn (hlow : -countBetween first last w ≤ k) (hhigh : k ≤ -1) :
    (w.daysIn first last).reverse[(-k - 1).toNat]? = some (occurrence first last w k) := by
  have hlength := length_daysIn w first last
  have hplace : (w.daysIn first last).length - 1 - (-k - 1).toNat =
      (countBetween first last w + k).toNat := by omega
  rw [List.getElem?_reverse (by omega), hplace, daysIn_eq_map, List.getElem?_map,
    List.getElem?_range (by omega), Option.map_some, occurrence_of_neg (by omega) (by omega),
    Int.toNat_of_nonneg (by omega)]

/-- Where there is a match, the last one has the number -1. -/
lemma getLast?_daysIn (hcount : 0 < countBetween first last w) :
    (w.daysIn first last).getLast? = some (occurrence first last w (-1)) := by
  rw [← List.head?_reverse, List.head?_eq_getElem?]
  have hlow : -countBetween first last w ≤ -1 := by omega
  exact getElem?_reverse_daysIn hlow (by decide)

/-- Every occurrence has two numbers, one from each end. -/
lemma occurrence_sub_count (hlow : 1 ≤ k) (hhigh : k ≤ countBetween first last w) :
    occurrence first last w (k - countBetween first last w - 1) = occurrence first last w k := by
  rw [occurrence_of_neg (by omega) (by omega), occurrence_of_pos (by omega)]
  omega

/-! ## Dates of occurrences -/

variable {n : Numeral} {period : String}

lemma occurrenceBetween_eq_ok
    (h : HasOccurrence (countBetween first last w) n.value) :
    occurrenceBetween first last w n period = .ok (occurrence first last w n.value) :=
  if_pos (occurrence_mem_iff.2 h)

lemma occurrenceBetween_eq_error
    (h : ¬HasOccurrence (countBetween first last w) n.value) :
    occurrenceBetween first last w n period =
      .error (.ordinalNotInPeriod n w.name period (countBetween first last w)) :=
  if_neg fun hmem => h (occurrence_mem_iff.1 hmem)

/-- In a window of the calendar every occurrence has a date. -/
lemma exists_date_of_occurrence (hfirst : minDay ≤ first) (hlast : last ≤ maxDay)
    (h : HasOccurrence (countBetween first last w) k) :
    ∃ d : Date, d.dayNumber = occurrence first last w k := by
  obtain ⟨hlow, hhigh⟩ := occurrence_mem_iff.2 h
  exact (Date.exists_dayNumber_eq_iff (Int.le_trans hfirst hlow)).2 (Int.le_trans hhigh hlast)

end Window

/-- There are no more matches than the calendar has days, so their number is never too long to be
written out. -/
lemma natAbs_countBetween_lt (first last : Moment) (w : Weekday) :
    (countBetween first.dayNumber last.dayNumber w).natAbs < 10 ^ 8 := by
  have hfirst := first.representable_dayNumber.1
  have hlast := last.representable_dayNumber.2
  have hnonneg : 0 ≤ countBetween first.dayNumber last.dayNumber w := countBetween_nonneg
  rcases Int.lt_or_le last.dayNumber first.dayNumber with hempty | hordered
  · have hnone := lt_countBetween_iff w first.dayNumber last.dayNumber (i := 0) (by decide)
    have hforward := w.daysForward_bounds first.dayNumber
    omega
  · have hbounds := countBetween_bounds w first.dayNumber last.dayNumber (by omega)
    simp only [minDay, maxDay] at hfirst hlast
    omega

/-- A number that has an occurrence in the calendar can be written out. -/
lemma HasOccurrence.writable {available : Int} {k : Numeral} (h : HasOccurrence available k.value)
    (havailable : available.natAbs < 10 ^ 8) : k.Writable := by
  refine Numeral.writable_of_natAbs_lt ?_
  rw [HasOccurrence] at h
  omega

/-- The report on a number without an occurrence names that number, and how many matches there
are. -/
lemma Cause.writable_ordinalNotInPeriod_iff {k : Numeral} {weekday period : String}
    {available : Int} (h : available.natAbs < 10 ^ 8) :
    Writable (.ordinalNotInPeriod k weekday period (available : Numeral)) ↔ k.Writable := by
  have havailable : (Numeral.plain available).Writable := Numeral.writable_of_natAbs_lt h
  refine List.forall_mem_cons.trans (and_iff_left ?_)
  exact List.forall_mem_singleton.2 havailable

/-! ## The call -/

namespace Call

variable {first last : Moment} {weekday k : Numeral} {w : Weekday}

lemma nthBetween_eq (h : weekday.value = w.index) :
    nthBetween (.moment first) (.moment last) (.number weekday) (.number k) =
      liftM (Date.nthBetween first last w k) := by
  rw [nthBetween, Value.requireWeekday_eq_ok _ h, ok_bind, Value.requireInt_number, ok_bind,
    Value.requireDate_moment, ok_bind, Value.requireDate_moment, ok_bind]

lemma nthBetween_eq_ok_iff (h : weekday.value = w.index) {d : Date} :
    nthBetween (.moment first) (.moment last) (.number weekday) (.number k) = .ok d ↔
      HasOccurrence (countBetween first.dayNumber last.dayNumber w) k.value ∧
        d.dayNumber = occurrence first.dayNumber last.dayNumber w k.value := by
  rw [nthBetween_eq h, liftM_eq_ok_iff, Date.nthBetween]
  by_cases hk : HasOccurrence (countBetween first.dayNumber last.dayNumber w) k.value
  · rw [occurrenceBetween_eq_ok hk, ok_bind, Date.atDay_eq_ok_iff, and_iff_right hk]
  · rw [occurrenceBetween_eq_error hk, error_bind]
    exact iff_of_false (fun heq => by cases heq) fun hd => hk hd.1

lemma nthBetween_eq_ok (h : weekday.value = w.index)
    (hk : HasOccurrence (countBetween first.dayNumber last.dayNumber w) k.value) {d : Date}
    (hd : d.dayNumber = occurrence first.dayNumber last.dayNumber w k.value) :
    nthBetween (.moment first) (.moment last) (.number weekday) (.number k) = .ok d :=
  (nthBetween_eq_ok_iff h).2 ⟨hk, hd⟩

lemma exists_nthBetween_iff (h : weekday.value = w.index) :
    (∃ d, nthBetween (.moment first) (.moment last) (.number weekday) (.number k) = .ok d) ↔
      HasOccurrence (countBetween first.dayNumber last.dayNumber w) k.value := by
  simp only [nthBetween_eq_ok_iff h, exists_and_left]
  exact and_iff_left_of_imp (exists_date_of_occurrence first.representable_dayNumber.1
    last.representable_dayNumber.2)

lemma nthBetween_eq_error (h : weekday.value = w.index)
    (hk : ¬HasOccurrence (countBetween first.dayNumber last.dayNumber w) k.value) :
    nthBetween (.moment first) (.moment last) (.number weekday) (.number k) =
      raise (.ordinalNotInPeriod k w.name (first.iso ++ ".." ++ last.iso)
        (countBetween first.dayNumber last.dayNumber w)) := by
  rw [nthBetween_eq h, Date.nthBetween, occurrenceBetween_eq_error hk, error_bind, liftM_error,
    raise]

/-- A number that can be written out is reported, with the number of matches there are. -/
lemma nthBetween_eq_cause (h : weekday.value = w.index)
    (hk : ¬HasOccurrence (countBetween first.dayNumber last.dayNumber w) k.value)
    (hwritable : k.Writable) :
    nthBetween (.moment first) (.moment last) (.number weekday) (.number k) =
      .error (.cause (.ordinalNotInPeriod k w.name (first.iso ++ ".." ++ last.iso)
        (countBetween first.dayNumber last.dayNumber w))) := by
  have hcount := natAbs_countBetween_lt first last w
  rw [nthBetween_eq_error h hk, raise,
    Cause.fault_eq ((Cause.writable_ordinalNotInPeriod_iff hcount).2 hwritable)]

/-- A longer number has no occurrence either, and there are no words to say so. -/
lemma nthBetween_eq_wording (h : weekday.value = w.index) (hlong : ¬k.Writable) :
    nthBetween (.moment first) (.moment last) (.number weekday) (.number k) =
      .error (.wording .tooManyDigits) := by
  have hcount := natAbs_countBetween_lt first last w
  rw [nthBetween_eq_error h fun hk => hlong (hk.writable hcount), raise,
    Cause.fault_eq_wording (mt (Cause.writable_ordinalNotInPeriod_iff hcount).1 hlong)]

/-- What is refused is refused for the number: as such where it can be written out, and for want of
words otherwise. -/
lemma nthBetween_refusal (h : weekday.value = w.index) {f : Fault}
    (hf : nthBetween (.moment first) (.moment last) (.number weekday) (.number k) = .error f) :
    (k.Writable → f.kind = .range ∧ f.code? = some .ordinalNotInPeriod) ∧
      (¬k.Writable → f = .wording .tooManyDigits) := by
  refine ⟨fun hk => ?_, fun hlong => ?_⟩
  · have hnone : ¬HasOccurrence (countBetween first.dayNumber last.dayNumber w) k.value := by
      rw [← exists_nthBetween_iff h, hf]
      rintro ⟨d, hd⟩
      cases hd
    rw [nthBetween_eq_cause h hnone hk] at hf
    cases hf
    exact ⟨rfl, rfl⟩
  · rw [nthBetween_eq_wording h hlong] at hf
    exact (Except.error.inj hf).symm

end Call

/-- **The n-th weekday between two dates is the n-th of the matching days.**  With a number from 1
up to the number of matches it is the match in that place, which has a number from the end as well;
with a negative number it is the match in that place from the back.  Any other number is refused,
with the number of matches there are; one of more than 4300 digits is refused without a code, for
want of words. -/
theorem nthBetween_indexes_daysIn (first last : Moment) (weekday : Numeral) (w : Weekday)
    (h : weekday.value = w.index) (days : List Int)
    (hdays : days = w.daysIn first.dayNumber last.dayNumber) :
    (∀ k : Numeral, 1 ≤ k.value → k.value ≤ days.length →
      ∃ d : Date,
        Call.nthBetween (.moment first) (.moment last) (.number weekday) (.number k) = .ok d ∧
        days[(k.value - 1).toNat]? = some d.dayNumber ∧
        Call.nthBetween (.moment first) (.moment last) (.number weekday)
          (.int (k.value - days.length - 1)) = .ok d) ∧
    (∀ k : Numeral, -days.length ≤ k.value → k.value ≤ -1 →
      ∃ d : Date,
        Call.nthBetween (.moment first) (.moment last) (.number weekday) (.number k) = .ok d ∧
        days.reverse[(-k.value - 1).toNat]? = some d.dayNumber) ∧
    (∀ k : Numeral, ¬(1 ≤ k.value ∧ k.value ≤ days.length) →
      ¬(-days.length ≤ k.value ∧ k.value ≤ -1) →
      (k.Writable → ∃ f : Fault,
        Call.nthBetween (.moment first) (.moment last) (.number weekday) (.number k) = .error f ∧
        f.kind = .range ∧ f.code? = some .ordinalNotInPeriod ∧
        f = .cause (.ordinalNotInPeriod k w.name (first.iso ++ ".." ++ last.iso)
          (days.length : Int))) ∧
      (¬k.Writable →
        Call.nthBetween (.moment first) (.moment last) (.number weekday) (.number k) =
          .error (.wording .tooManyDigits))) := by
  subst hdays
  rw [length_daysIn]
  refine ⟨fun k hlow hhigh => ?_, fun k hlow hhigh => ?_, fun k hpos hneg => ?_⟩
  · have hk : HasOccurrence (countBetween first.dayNumber last.dayNumber w) k.value :=
      .inl ⟨hlow, hhigh⟩
    obtain ⟨d, hd⟩ := exists_date_of_occurrence first.representable_dayNumber.1
      last.representable_dayNumber.2 hk
    have hsame := occurrence_sub_count hlow hhigh
    refine ⟨d, Call.nthBetween_eq_ok h hk hd, ?_, Call.nthBetween_eq_ok h (.inr ?_) ?_⟩
    · rw [getElem?_daysIn hlow hhigh, hd]
    · rw [Numeral.value_plain]
      omega
    · rw [Numeral.value_plain, hsame, hd]
  · have hk : HasOccurrence (countBetween first.dayNumber last.dayNumber w) k.value :=
      .inr ⟨hlow, hhigh⟩
    obtain ⟨d, hd⟩ := exists_date_of_occurrence first.representable_dayNumber.1
      last.representable_dayNumber.2 hk
    refine ⟨d, Call.nthBetween_eq_ok h hk hd, ?_⟩
    rw [getElem?_reverse_daysIn hlow hhigh, hd]
  · refine ⟨fun hk => ⟨_, Call.nthBetween_eq_cause h ?_ hk, rfl, rfl, rfl⟩, fun hk => ?_⟩
    · exact fun hoccurs => hoccurs.elim hpos hneg
    · exact Call.nthBetween_eq_wording h hk

def Date.february1 : Date := { year := 2028, month := 2, day := 1, valid := by decide }

def Date.february29 : Date := { year := 2028, month := 2, day := 29, valid := by decide }

/-- The leap day of 2028 is the fifth Tuesday of its month, and the last; and the month read
backwards has no Tuesday at all. -/
theorem nthBetween_indexes_daysIn_leapDay :
    Call.nthBetween (.date .february1) (.date .february29) (.weekday .tuesday) (.int 5) =
        .ok .february29 ∧
      Call.nthBetween (.date .february1) (.date .february29) (.weekday .tuesday) (.int (-1)) =
        .ok .february29 ∧
      ∃ f, Call.nthBetween (.date .february29) (.date .february1) (.weekday .tuesday) (.int 1) =
          .error f ∧ f.code? = some .ordinalNotInPeriod := by
  have hdays : Weekday.tuesday.daysIn (Moment.ofDate .february1).dayNumber
      (Moment.ofDate .february29).dayNumber = [740377, 740384, 740391, 740398, 740405] := by
    decide
  have hnone : Weekday.tuesday.daysIn (Moment.ofDate .february29).dayNumber
      (Moment.ofDate .february1).dayNumber = [] := by
    decide
  obtain ⟨hordered, -⟩ := nthBetween_indexes_daysIn (.ofDate .february1) (.ofDate .february29)
    (.weekday .tuesday) .tuesday rfl _ hdays.symm
  obtain ⟨-, -, hreversed⟩ := nthBetween_indexes_daysIn (.ofDate .february29) (.ofDate .february1)
    (.weekday .tuesday) .tuesday rfl _ hnone.symm
  obtain ⟨d, hfifth, hday, hlast⟩ := hordered (.plain 5) (by decide) (by decide)
  obtain ⟨f, herror, -, hcode, -⟩ := (hreversed (.plain 1) (by decide) (by decide)).1 (by decide)
  obtain rfl : d = .february29 := Date.dayNumber_inj (Option.some.inj hday).symm
  exact ⟨hfifth, hlast, f, herror, hcode⟩

/-- February 2028 has no Monday with a number of 4301 digits, but that is not what is reported: the
failure is a plain error of a value. -/
theorem nthBetween_overlong :
    ¬HasOccurrence
        (countBetween (Moment.ofDate .february1).dayNumber (Moment.ofDate .february29).dayNumber
          .monday) (10 ^ 4300) ∧
      ∃ f, Call.nthBetween (.date .february1) (.date .february29) (.weekday .monday)
          (.int (10 ^ 4300)) = .error f ∧ f.kind = .value ∧ f.code? = none := by
  have hlong : ¬(Numeral.plain (10 ^ 4300)).Writable := Numeral.not_writable_pow
  have hcount := natAbs_countBetween_lt (.ofDate .february1) (.ofDate .february29) .monday
  refine ⟨fun h => hlong (HasOccurrence.writable h hcount), .wording .tooManyDigits, ?_, rfl, rfl⟩
  exact Call.nthBetween_eq_wording (w := .monday) rfl hlong

end BusinessCalendar
