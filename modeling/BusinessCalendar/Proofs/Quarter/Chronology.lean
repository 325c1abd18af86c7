import BusinessCalendar.Proofs.Quarter.Tiling
import BusinessCalendar.Proofs.Sorting

/-!
# Quarters in the order of time

Quarters compare like tuples: by their fiscal year first, then by their index, and only then by their
days.  That this is the order of time is a fact about one definition at a time: **under one anchor
the year and the index of a quarter grow with its number on the line of quarters**
(`Quarter.OnLine.position_lt_iff`), **and so do its days** (`Quarter.OnLine.stop_lt_start_iff`).
Quarters of two definitions need not be in the order of time.

* `Quarter.position` — what quarters are compared by; `Value.before_ofQuarter`,
  `Value.same_ofQuarter` — the comparisons of values in its terms.
* **`quarters_chronological`** — comparing and sorting the quarters of one definition.
-/

namespace BusinessCalendar

/-! ## Comparing numbers and dates -/

namespace Point

variable (m n : Int)

lemma inUnits_self (unit : Int) : inUnits unit m unit = m := by
  rw [inUnits, Int.sub_self]
  exact Int.mul_one m

lemma same_ofInt : (ofInt m).same (ofInt n) = (m == n) := by
  simp only [ofInt, same, Int.min_self, inUnits_self]

lemma before_ofInt : (ofInt m).before (ofInt n) = decide (m < n) := by
  simp only [ofInt, before, Int.min_self, inUnits_self]

end Point

namespace Value

section Items

variable (m n : Int) (d e : Date)

lemma same_int : (int m).same (int n) = (m == n) := by
  simp only [int, same, point?, Numeral.value, Point.same_ofInt]

lemma before_int : (int m).before (int n) = .ok (decide (m < n)) := by
  simp only [int, before, point?, Numeral.value, Point.before_ofInt]

lemma same_date : (date d).same (date e) = (d.dayNumber == e.dayNumber) := by
  rw [date, date, same]
  rfl

lemma before_date : (date d).before (date e) = .ok (decide (d.dayNumber < e.dayNumber)) := by
  rw [date, date, before]
  rfl

/-- A number, and likewise a date, agrees with no other one. -/
lemma sameItem_int : (int m).sameItem (int n) = (m == n) := by
  rw [sameItem, same_int]
  exact Bool.or_false _

lemma sameItem_date : (date d).sameItem (date e) = (d.dayNumber == e.dayNumber) := by
  rw [sameItem, same_date]
  exact Bool.or_false _

end Items

/-- A value comes before another one or is equal to it. -/
def AtMost (v w : Value) : Prop := v.before w = .ok true ∨ v.same w = true

lemma atMost_date {d e : Date} : (date d).AtMost (date e) ↔ d.dayNumber ≤ e.dayNumber := by
  rw [AtMost, before_date, same_date, Except.ok.injEq, decide_eq_true_eq, beq_iff_eq]
  exact Int.le_iff_lt_or_eq.symm

end Value

/-! ## Comparing quarters -/

namespace Quarter

/-- What quarters are compared by. -/
def position (q : Quarter) : ℤ ×ₗ ℤ ×ₗ ℤ ×ₗ ℤ :=
  toLex (q.year, toLex (q.index, toLex (q.start.dayNumber, q.stop.dayNumber)))

lemma eq_of_dayNumber_eq {q r : Quarter} (hyear : q.year = r.year) (hindex : q.index = r.index)
    (hstart : q.start.dayNumber = r.start.dayNumber)
    (hstop : q.stop.dayNumber = r.stop.dayNumber) : q = r := by
  obtain ⟨year, index, start, stop⟩ := q
  simp only at hyear hindex hstart hstop
  rw [hyear, hindex, Date.dayNumber_inj hstart, Date.dayNumber_inj hstop]

end Quarter

namespace Value

section FirstDifference

variable {ε : Type} {m n : Int}

/-- The first items that differ decide. -/
lemma firstDifference_or {p : Prop} [Decidable p] :
    (if !(m == n) then .ok (decide (m < n)) else .ok (decide p) : Except ε Bool) =
      .ok (decide (m < n ∨ m = n ∧ p)) := by
  by_cases h : m = n
  · simp [h]
  · simp [h]

lemma firstDifference :
    (if !(m == n) then .ok (decide (m < n)) else .ok false : Except ε Bool) =
      .ok (decide (m < n)) := by
  by_cases h : m = n
  · simp [h]
  · simp [h]

end FirstDifference

lemma before_ofQuarter (q r : Quarter) :
    (ofQuarter q).before (ofQuarter r) = .ok (decide (q.position < r.position)) := by
  rw [ofQuarter, ofQuarter, before]
  simp only [sameItem_int, sameItem_date, before_int, before_date, firstDifference,
    firstDifference_or, Quarter.position, Prod.Lex.toLex_lt_toLex]

lemma same_ofQuarter {q r : Quarter} : (ofQuarter q).same (ofQuarter r) = true ↔ q = r := by
  have hitems : (ofQuarter q).same (ofQuarter r) =
      ((int q.year).sameItem (int r.year) && (int q.index).sameItem (int r.index) &&
        (date q.start).sameItem (date r.start) && (date q.stop).sameItem (date r.stop)) := by
    rw [ofQuarter, ofQuarter, same]
    rfl
  simp only [hitems, sameItem_int, sameItem_date, Bool.and_eq_true, beq_iff_eq]
  constructor
  · rintro ⟨⟨⟨hyear, hindex⟩, hstart⟩, hstop⟩
    exact Quarter.eq_of_dayNumber_eq hyear hindex hstart hstop
  · rintro rfl
    exact ⟨⟨⟨rfl, rfl⟩, rfl⟩, rfl⟩

end Value

/-! ## Quarters on one line -/

namespace Quarter.OnLine

variable {a : Anchor} {q r : Quarter} (hq : q.OnLine a) (hr : r.OnLine a)
include hq

/-- A date is in the quarter of its number, and in no other. -/
lemma contains_iff {v : Moment} :
    (q.start.dayNumber ≤ v.dayNumber ∧ v.dayNumber ≤ q.stop.dayNumber) ↔
      q.number = a.quarterNumberOf v.date.toYearMonthDay := by
  have hproper := v.date.valid.2
  rw [hq.start_eq, hq.stop_eq, Int.le_sub_one_iff]
  constructor
  · rintro ⟨hlow, hhigh⟩
    exact (Anchor.quarterNumberOf_eq hproper hlow hhigh).symm
  · intro hnumber
    rw [hnumber]
    exact ⟨Anchor.edge_quarterNumberOf_le hproper, Anchor.lt_edge_quarterNumberOf hproper⟩

include hr

lemma eq_iff : q = r ↔ q.number = r.number := by
  constructor
  · rintro rfl
    rfl
  · intro hnumber
    obtain ⟨hyear, hindex⟩ := quarterNumber_inj hq.index_range hr.index_range hnumber
    have hstart := hq.start_eq.trans (hnumber ▸ hr.start_eq.symm)
    have hstop := hq.stop_eq.trans (hnumber ▸ hr.stop_eq.symm)
    exact eq_of_dayNumber_eq hyear hindex hstart hstop

/-- **Days are ordered by the number of the quarter.** -/
theorem stop_lt_start_iff : q.stop.dayNumber < r.start.dayNumber ↔ q.number < r.number := by
  rw [hq.stop_eq, hr.start_eq, Int.sub_one_lt_iff, a.edge_strictMono.le_iff_le, Int.add_one_le_iff]

/-- **So are years and indices**, whatever the days. -/
theorem position_lt_iff : q.position < r.position ↔ q.number < r.number := by
  have hqindex := hq.index_range
  have hrindex := hr.index_range
  simp only [position, Prod.Lex.toLex_lt_toLex]
  constructor
  · rintro (hyear | ⟨hyear, hindex | ⟨hindex, hdays⟩⟩)
    · simp only [number, quarterNumber]
      omega
    · simp only [number, quarterNumber]
      omega
    · -- there is only one quarter of that year and that index
      have hsame := (hq.eq_iff hr).2 (by rw [number, number, hyear, hindex])
      rw [hsame] at hdays
      omega
  · intro hnumber
    simp only [number, quarterNumber] at hnumber
    omega

lemma atMost_iff : (Value.ofQuarter q).AtMost (.ofQuarter r) ↔ q.number ≤ r.number := by
  rw [Value.AtMost, Value.before_ofQuarter, Value.same_ofQuarter, Except.ok.injEq,
    decide_eq_true_eq, hq.position_lt_iff hr, hq.eq_iff hr]
  exact Int.le_iff_lt_or_eq.symm

end Quarter.OnLine

/-! ## The order of time -/

/-- The quarters that dates resolve to under a definition are in the order of time. -/
structure Chronological (definition : Value) : Prop where
  /-- A quarter comes before another one exactly when it ends before the other one starts. -/
  before_eq : ∀ (v w : Moment) (q r : Quarter),
    Call.resolveQuarter (.moment v) definition = .ok q →
    Call.resolveQuarter (.moment w) definition = .ok r →
    (Value.ofQuarter q).before (.ofQuarter r) = .ok (decide (q.stop.dayNumber < r.start.dayNumber))
  /-- Two quarters are equal exactly when each one contains the date of the other. -/
  same_iff : ∀ (v w : Moment) (q r : Quarter),
    Call.resolveQuarter (.moment v) definition = .ok q →
    Call.resolveQuarter (.moment w) definition = .ok r →
    ((Value.ofQuarter q).same (.ofQuarter r) = true ↔
      Call.quarterContains (.date q.start) (.date q.stop) (.moment w) = .ok true ∧
        Call.quarterContains (.date r.start) (.date r.stop) (.moment v) = .ok true)
  /-- A later day has no earlier quarter, at whatever times; dates in order are days in order. -/
  monotone_day : ∀ (v w : Moment) (q r : Quarter),
    Call.resolveQuarter (.moment v) definition = .ok q →
    Call.resolveQuarter (.moment w) definition = .ok r →
    v.dayNumber ≤ w.dayNumber → (Value.ofQuarter q).AtMost (.ofQuarter r)
  monotone_date : ∀ (d e : Date) (q r : Quarter),
    Call.resolveQuarter (.date d) definition = .ok q →
    Call.resolveQuarter (.date e) definition = .ok r →
    (Value.date d).AtMost (.date e) → (Value.ofQuarter q).AtMost (.ofQuarter r)
  /-- A list of quarters is sorted without fail, and comes back in the order of time. -/
  sorted : ∀ qs : List Quarter,
    (∀ q ∈ qs, ∃ v, Call.resolveQuarter (.moment v) definition = .ok q) →
    ∃ rs : List Quarter, Value.sort (qs.map .ofQuarter) = .ok (rs.map .ofQuarter) ∧ rs.Perm qs ∧
      rs.Pairwise fun q r => q = r ∨ q.stop.dayNumber < r.start.dayNumber

/-- Quarters of one anchor are sorted by their days, although these are compared last. -/
lemma Value.exists_sort_ofQuarter {a : Anchor} {qs : List Quarter}
    (h : ∀ q ∈ qs, q.OnLine a) :
    ∃ rs : List Quarter, sort (qs.map ofQuarter) = .ok (rs.map ofQuarter) ∧ rs.Perm qs ∧
      rs.Pairwise fun q r => q = r ∨ q.stop.dayNumber < r.start.dayNumber := by
  obtain ⟨rs, hsort, hperm, horder⟩ := exists_sortBy before_ofQuarter qs
  refine ⟨rs, hsort, hperm, horder.imp_of_mem fun {q r} hq hr hle => ?_⟩
  have hqline := h q (hperm.mem_iff.1 hq)
  have hrline := h r (hperm.mem_iff.1 hr)
  have hnumber : q.number ≤ r.number := by
    rw [← not_lt, ← hrline.position_lt_iff hqline, not_lt]
    exact hle
  rw [hqline.eq_iff hrline, hqline.stop_lt_start_iff hrline]
  exact (Int.le_iff_lt_or_eq.1 hnumber).symm

section Resolved

variable {definition : Value} {a : Anchor} (h : definition.anchor? = some a) {v w : Moment}
  {q r : Quarter} (hq : Call.resolveQuarter (.moment v) definition = .ok q)
  (hr : Call.resolveQuarter (.moment w) definition = .ok r)

include h hq

lemma Call.onLine_of_resolveQuarter :
    q.OnLine a ∧ q.number = a.quarterNumberOf v.date.toYearMonthDay := by
  rw [resolveQuarter_moment h, liftM_eq_ok_iff] at hq
  exact Quarter.onLine_of_resolve hq

include hr

lemma Call.atMost_of_dayNumber_le (hle : v.dayNumber ≤ w.dayNumber) :
    (Value.ofQuarter q).AtMost (.ofQuarter r) := by
  obtain ⟨hqline, hqnumber⟩ := onLine_of_resolveQuarter h hq
  obtain ⟨hrline, hrnumber⟩ := onLine_of_resolveQuarter h hr
  have hstart := (hqline.contains_iff.2 hqnumber).1
  have hstop := (hrline.contains_iff.2 hrnumber).2
  rw [hqline.atMost_iff hrline, ← not_lt, ← hrline.stop_lt_start_iff hqline]
  omega

end Resolved

/-- **The quarters of one definition are in the order of time**, in which they are compared and
sorted, although the days are the last thing that is looked at. -/
theorem quarters_chronological {definition : Value} {a : Anchor}
    (h : definition.anchor? = some a) : Chronological definition := by
  constructor
  case before_eq =>
    intro v w q r hq hr
    obtain ⟨hqline, -⟩ := Call.onLine_of_resolveQuarter h hq
    obtain ⟨hrline, -⟩ := Call.onLine_of_resolveQuarter h hr
    rw [Value.before_ofQuarter]
    simp only [hqline.position_lt_iff hrline, hqline.stop_lt_start_iff hrline]
  case same_iff =>
    intro v w q r hq hr
    obtain ⟨hqline, hqnumber⟩ := Call.onLine_of_resolveQuarter h hq
    obtain ⟨hrline, hrnumber⟩ := Call.onLine_of_resolveQuarter h hr
    rw [Value.same_ofQuarter, Call.quarterContains_iff, Call.quarterContains_iff,
      hqline.eq_iff hrline, hqline.contains_iff, hrline.contains_iff, ← hqnumber, ← hrnumber]
    exact ⟨fun hnumber => ⟨hnumber, hnumber.symm⟩, And.left⟩
  case monotone_day =>
    intro v w q r hq hr hle
    exact Call.atMost_of_dayNumber_le h hq hr hle
  case monotone_date =>
    intro d e q r hq hr hle
    exact Call.atMost_of_dayNumber_le h hq hr (Value.atMost_date.1 hle)
  case sorted =>
    intro qs hqs
    have hline : ∀ q ∈ qs, q.OnLine a := by
      intro q hq
      obtain ⟨v, hv⟩ := hqs q hq
      exact (Call.onLine_of_resolveQuarter h hv).1
    exact Value.exists_sort_ofQuarter hline

/-- The last quarter of a fiscal year comes before the first one of the next, which starts a day
later. -/
theorem quarters_chronological_lateNovember :
    (Value.ofAnchor .lateNovember).anchor? = some .lateNovember ∧
      ∃ q r,
        Call.resolveQuarter (.date ⟨⟨2025, 11, 27⟩, by decide⟩) (.ofAnchor .lateNovember) = .ok q ∧
        Call.resolveQuarter (.date ⟨⟨2025, 11, 28⟩, by decide⟩) (.ofAnchor .lateNovember) = .ok r ∧
        (q.index = 4 ∧ r.index = 1) ∧ (Value.ofQuarter q).before (.ofQuarter r) = .ok true ∧
        ∃ rs : List Quarter,
          Value.sort ([r, q, r].map .ofQuarter) = .ok (rs.map .ofQuarter) ∧ rs.Perm [r, q, r] ∧
            rs.Pairwise fun q r => q = r ∨ q.stop.dayNumber < r.start.dayNumber := by
  have hanchor : (Value.ofAnchor .lateNovember).anchor? = some .lateNovember := rfl
  have horder := quarters_chronological hanchor
  have hresolves : ∃ q r,
      Call.resolveQuarter (.date ⟨⟨2025, 11, 27⟩, by decide⟩) (.ofAnchor .lateNovember) = .ok q ∧
      Call.resolveQuarter (.date ⟨⟨2025, 11, 28⟩, by decide⟩) (.ofAnchor .lateNovember) = .ok r ∧
      (q.index = 4 ∧ r.index = 1) ∧ q.stop.dayNumber < r.start.dayNumber :=
    ⟨_, _, rfl, rfl, ⟨rfl, rfl⟩, by decide +kernel⟩
  obtain ⟨q, r, hq, hr, hindices, hdays⟩ := hresolves
  have hbefore := horder.before_eq _ _ q r hq hr
  rw [decide_eq_true hdays] at hbefore
  refine ⟨hanchor, q, r, hq, hr, hindices, hbefore, horder.sorted [r, q, r] ?_⟩
  simp only [List.forall_mem_cons, List.not_mem_nil, false_imp_iff, implies_true, and_true]
  exact ⟨⟨_, hr⟩, ⟨_, hq⟩, ⟨_, hr⟩⟩

end BusinessCalendar
