import BusinessCalendar.Proofs.Quarter.Resolution

/-!
# Anchors with the same boundaries

Two anchors on the same day of the month, whose months differ by whole quarters, divide time at the
same days.  They count the quarters of one line from different places: **quarter `k` of the one is
quarter `k + t` of the other** (`InStep.edge`), and that carries over to the quarter that holds a date
(`InStep.quarterNumberOf`).  Only the labels depend on where the counting starts, and a label with its
year and its index comes back to a number of the line.

* `Anchor.InStep`, `Anchor.quartersApart` — such anchors, and how far apart they start to count.
* **`quarters_share_boundaries`** — one date under two definitions.
-/

namespace BusinessCalendar

namespace Anchor

/-- Two anchors have the same day, in months that are whole quarters apart. -/
def InStep (a b : Anchor) : Prop := a.day = b.day ∧ 3 ∣ b.month - a.month

/-- By how many quarters an anchor comes after another one within the calendar year. -/
def quartersApart (a b : Anchor) : Int := (b.month - a.month) / 3

namespace InStep

variable {a b : Anchor} (h : a.InStep b)
include h

lemma month_eq : b.month = a.month + 3 * a.quartersApart b := by
  have hexact := Int.mul_ediv_cancel' h.2
  rw [quartersApart]
  omega

/-- Both anchors stand in one year, so less than a year lies between them. -/
lemma quartersApart_bounds : -3 ≤ a.quartersApart b ∧ a.quartersApart b ≤ 3 := by
  have hmonth := h.month_eq
  have ha := a.month_range
  have hb := b.month_range
  omega

/-- **The edges are the same, under numbers that differ by the quarters between the anchors.** -/
theorem edge (k : Int) : b.edge k = a.edge (k + a.quartersApart b) := by
  have hmonths : b.month - 1 + 3 * k = a.month - 1 + 3 * (k + a.quartersApart b) := by
    have hmonth := h.month_eq
    omega
  rw [Anchor.edge, Anchor.edge, hmonths, h.1]

/-- So is the quarter that holds a date. -/
lemma quarterNumberOf (d : YearMonthDay) :
    a.quarterNumberOf d = b.quarterNumberOf d + a.quartersApart b := by
  have hmonth := h.month_eq
  rw [Anchor.quarterNumberOf, Anchor.quarterNumberOf, h.1]
  omega

end InStep

end Anchor

/-- What two definitions make of one date, whose anchors are a number of quarters apart. -/
structure SharesBoundaries (definition other : Value) (apart : Int) : Prop where
  same_bounds : ∀ (v : Moment) (q r : Quarter),
    Call.resolveQuarter (.moment v) definition = .ok q →
    Call.resolveQuarter (.moment v) other = .ok r → q.start = r.start ∧ q.stop = r.stop
  /-- The index goes round the year by the quarters between the anchors. -/
  index_modEq : ∀ (v : Moment) (q r : Quarter),
    Call.resolveQuarter (.moment v) definition = .ok q →
    Call.resolveQuarter (.moment v) other = .ok r → q.index ≡ r.index + apart [ZMOD 4]
  year_close : ∀ (v : Moment) (q r : Quarter),
    Call.resolveQuarter (.moment v) definition = .ok q →
    Call.resolveQuarter (.moment v) other = .ok r → |q.year - r.year| ≤ 1
  /-- Only in the first fiscal years can a date resolve under one of them alone. -/
  resolves : ∀ (v : Moment) (q : Quarter),
    Call.resolveQuarter (.moment v) definition = .ok q → 2 ≤ q.year →
    ∃ r, Call.resolveQuarter (.moment v) other = .ok r

namespace Anchor.InStep

variable {a b : Anchor} {d : Date} {q r : Quarter} (h : a.InStep b)
include h

lemma number_eq (hq : Quarter.resolve d a = .ok q) (hr : Quarter.resolve d b = .ok r) :
    q.number = r.number + a.quartersApart b := by
  rw [(Quarter.onLine_of_resolve hq).2, (Quarter.onLine_of_resolve hr).2, h.quarterNumberOf]

lemma same_bounds (hq : Quarter.resolve d a = .ok q) (hr : Quarter.resolve d b = .ok r) :
    q.start = r.start ∧ q.stop = r.stop := by
  obtain ⟨hqline, -⟩ := Quarter.onLine_of_resolve hq
  obtain ⟨hrline, -⟩ := Quarter.onLine_of_resolve hr
  have hnext : r.number + a.quartersApart b + 1 = r.number + 1 + a.quartersApart b :=
    Int.add_right_comm _ _ _
  have hstart : q.start.dayNumber = r.start.dayNumber := by
    rw [hqline.start_eq, hrline.start_eq, h.edge, h.number_eq hq hr]
  have hstop : q.stop.dayNumber = r.stop.dayNumber := by
    rw [hqline.stop_eq, hrline.stop_eq, h.edge, h.number_eq hq hr, hnext]
  exact ⟨Date.dayNumber_inj hstart, Date.dayNumber_inj hstop⟩

lemma exists_resolve (hq : Quarter.resolve d a = .ok q) (hyear : 2 ≤ q.year) :
    ∃ r, Quarter.resolve d b = .ok r := by
  obtain ⟨⟨hindex, -, hstop⟩, hnumber⟩ := Quarter.onLine_of_resolve hq
  have hlast := q.stop.representable_dayNumber.2
  have hfound := locate_number (a := b) d.valid.2.1
  have hfoundIndex := b.locate_index d.toYearMonthDay
  have hapart := h.quartersApart_bounds
  rw [h.quarterNumberOf] at hnumber
  rw [hnumber, Int.add_right_comm, ← h.edge] at hstop
  rw [Quarter.exists_resolve_iff, startDay_eq_edge, quarterNumber_succ, hfound, ← hstop]
  refine ⟨?_, hlast⟩
  simp only [Quarter.number, quarterNumber] at hnumber hfound
  omega

end Anchor.InStep

/-- The definitions whose fiscal years start with a quarter of the calendar. -/
def QuarterDefinition.calendarQuarters : List QuarterDefinition :=
  [.calendarYear, .financialApril, .financialJuly, .financialOctober]

lemma QuarterDefinition.inStep {d e : QuarterDefinition} (hd : d ∈ calendarQuarters)
    (he : e ∈ calendarQuarters) : ∃ a b, d.anchor? = some a ∧ e.anchor? = some b ∧ a.InStep b := by
  have hanchor : ∀ c ∈ calendarQuarters, ∃ a, c.anchor? = some a ∧ a.day = 1 ∧ a.month % 3 = 1 := by
    simp only [calendarQuarters, List.forall_mem_cons, List.not_mem_nil, false_imp_iff, implies_true,
      and_true]
    exact ⟨⟨_, rfl, rfl, rfl⟩, ⟨_, rfl, rfl, rfl⟩, ⟨_, rfl, rfl, rfl⟩, ⟨_, rfl, rfl, rfl⟩⟩
  obtain ⟨a, ha, haday, hamonth⟩ := hanchor d hd
  obtain ⟨b, hb, hbday, hbmonth⟩ := hanchor e he
  exact ⟨a, b, ha, hb, haday.trans hbday.symm, by omega⟩

lemma Call.sharesBoundaries {definition other : Value} {a b : Anchor}
    (ha : definition.anchor? = some a) (hb : other.anchor? = some b) (h : a.InStep b) :
    SharesBoundaries definition other (a.quartersApart b) := by
  have hfirst : ∀ {v : Moment} {q : Quarter},
      resolveQuarter (.moment v) definition = .ok q → Quarter.resolve v.date a = .ok q := by
    intro v q hq
    rwa [resolveQuarter_moment ha, liftM_eq_ok_iff] at hq
  have hsecond : ∀ {v : Moment} {r : Quarter},
      resolveQuarter (.moment v) other = .ok r → Quarter.resolve v.date b = .ok r := by
    intro v r hr
    rwa [resolveQuarter_moment hb, liftM_eq_ok_iff] at hr
  constructor
  case same_bounds =>
    intro v q r hq hr
    exact h.same_bounds (hfirst hq) (hsecond hr)
  case index_modEq =>
    intro v q r hq hr
    have hnumbers := h.number_eq (hfirst hq) (hsecond hr)
    simp only [Quarter.number, quarterNumber] at hnumbers
    exact Int.modEq_iff_dvd.2 ⟨q.year - r.year, by omega⟩
  case year_close =>
    intro v q r hq hr
    have hnumbers := h.number_eq (hfirst hq) (hsecond hr)
    have hqindex := (Quarter.onLine_of_resolve (hfirst hq)).1.index_range
    have hrindex := (Quarter.onLine_of_resolve (hsecond hr)).1.index_range
    have hapart := h.quartersApart_bounds
    simp only [Quarter.number, quarterNumber] at hnumbers
    rw [abs_le]
    omega
  case resolves =>
    intro v q hq hyear
    obtain ⟨r, hr⟩ := h.exists_resolve (hfirst hq) hyear
    exact ⟨r, by rw [resolveQuarter_moment hb, hr, liftM_ok]⟩

/-- **Anchors in step share their boundaries.**  Under two definitions whose anchors have one day, in
months that are whole quarters apart, a date resolves to the same days; the indices differ by the
quarters between the anchors and the fiscal years by one at most.  That is so of every two of the
definitions that start with a quarter of the calendar. -/
theorem quarters_share_boundaries :
    (∀ (definition other : Value) (a b : Anchor), definition.anchor? = some a →
      other.anchor? = some b → a.day = b.day → 3 ∣ b.month - a.month →
        SharesBoundaries definition other ((b.month - a.month) / 3)) ∧
      ∀ d ∈ QuarterDefinition.calendarQuarters, ∀ e ∈ QuarterDefinition.calendarQuarters,
        ∃ a b, d.anchor? = some a ∧ e.anchor? = some b ∧
          SharesBoundaries (.quarterDefinition d) (.quarterDefinition e)
            ((b.month - a.month) / 3) := by
  refine ⟨fun definition other a b ha hb hday hmonth => Call.sharesBoundaries ha hb ⟨hday, hmonth⟩,
    fun d hd e he => ?_⟩
  obtain ⟨a, b, ha, hb, h⟩ := QuarterDefinition.inStep hd he
  exact ⟨a, b, ha, hb, Call.sharesBoundaries ha hb h⟩

/-- A fiscal year from 28 August, a quarter before the one from 28 November. -/
def Anchor.lateAugust : Anchor :=
  { Anchor.lateNovember with month := 8, month_range := by decide }

/-- The day before 28 November 2025 ends a fourth quarter of 2024 or a first one of 2025. -/
theorem quarters_share_boundaries_lateNovember :
    ∃ q r, Call.resolveQuarter (.date ⟨⟨2025, 11, 27⟩, by decide⟩) (.ofAnchor .lateNovember) = .ok q ∧
      Call.resolveQuarter (.date ⟨⟨2025, 11, 27⟩, by decide⟩) (.ofAnchor .lateAugust) = .ok r ∧
      (q.start = r.start ∧ q.stop = r.stop) ∧ q.index ≡ r.index + -1 [ZMOD 4] ∧
      |q.year - r.year| ≤ 1 := by
  have hshares := quarters_share_boundaries.1 (.ofAnchor .lateNovember) (.ofAnchor .lateAugust)
    .lateNovember .lateAugust rfl rfl rfl (by decide)
  have hresolves : ∃ q, Call.resolveQuarter (.date ⟨⟨2025, 11, 27⟩, by decide⟩)
      (.ofAnchor .lateNovember) = .ok q ∧ 2 ≤ q.year := ⟨_, rfl, by decide⟩
  obtain ⟨q, hq, hyear⟩ := hresolves
  obtain ⟨r, hr⟩ := hshares.resolves _ q hq hyear
  exact ⟨q, r, hq, hr, hshares.same_bounds _ q r hq hr, hshares.index_modEq _ q r hq hr,
    hshares.year_close _ q r hq hr⟩

end BusinessCalendar
