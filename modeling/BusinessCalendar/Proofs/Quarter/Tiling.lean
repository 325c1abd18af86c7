import BusinessCalendar.Proofs.Quarter.Resolution

/-!
# Quarters tile time

The boundaries of the quarters of a fiscal year are computed one by one, each on its own.  This file
shows that together they leave no gap and no overlap: **each quarter ends on the day before the next
one starts**, through the end of the fiscal year, **and the quarters of a year are those that their
days resolve to** (`quarters_tile_time`).

The laws are those of the edges on the line of quarters; all that is added here is which of the
boundaries are dates.
-/

namespace BusinessCalendar

namespace Anchor

variable {a : Anchor} {year quarter : Int}

lemma eq_of_dayNumber_eq_startDay {d : Date} (h : d.dayNumber = a.startDay year quarter) :
    d.toYearMonthDay = { year := a.startYear year quarter, month := a.startMonth quarter, day := a.day } :=
  YearMonthDay.eq_of_dayNumber_eq d.valid.2 (a.startDay_proper year quarter) h

end Anchor

/-! ## The quarters of a year -/

namespace Quarter

variable {a : Anchor} {year : Int} {qs : List Quarter}

lemma ofYear_eq_ok_iff :
    ofYear year a = .ok qs ↔
      List.Forall₂ (fun quarter r => ofIndex year quarter a = .ok r) [1, 2, 3, 4] qs :=
  mapM_eq_ok_iff

lemma ofIndex_year {quarter : Int} {r : Quarter} (h : ofIndex year quarter a = .ok r) :
    r.year = year := by
  simp only [ofIndex, bind_eq_ok_iff, pure_eq_ok, Except.ok.injEq] at h
  obtain ⟨_, -, _, -, _, -, _, -, rfl⟩ := h
  rfl

lemma ofYear_year (h : ofYear year a = .ok qs) : ∀ r ∈ qs, r.year = year := by
  have hall := ofYear_eq_ok_iff.1 h
  clear h
  generalize [(1 : Int), 2, 3, 4] = quarters at hall
  induction hall with
  | nil => exact List.forall_mem_nil _
  | cons hr _ ih => exact List.forall_mem_cons.2 ⟨ofIndex_year hr, ih⟩

lemma exists_ofYear_iff :
    (∃ qs, ofYear year a = .ok qs) ↔
      ∀ quarter, 1 ≤ quarter → quarter ≤ 4 → ∃ r, ofIndex year quarter a = .ok r := by
  have hmem : ∀ quarter : Int, quarter ∈ [1, 2, 3, 4] ↔ 1 ≤ quarter ∧ quarter ≤ 4 := by
    intro quarter
    simp only [List.mem_cons, List.not_mem_nil, or_false]
    omega
  simp only [ofYear, exists_mapM_eq_ok_iff, hmem, and_imp]

/-- The four quarters of a year have 365 or 366 days. -/
lemma sum_days_ofYear (hy : 1 ≤ year) (h : ofYear year a = .ok qs) :
    (qs.map days).sum = 365 ∨ (qs.map days).sum = 366 := by
  obtain _ | ⟨h₁, _ | ⟨h₂, _ | ⟨h₃, _ | ⟨h₄, _ | _⟩⟩⟩⟩ := ofYear_eq_ok_iff.1 h
  rw [ofIndex_eq_ok_iff hy (by decide)] at h₁ h₂ h₃ h₄
  have hyear := a.startDay_year year
  simp only [List.map_cons, List.map_nil, List.sum_cons, List.sum_nil, days]
  simp only [Int.reduceAdd] at h₁ h₂ h₃ h₄
  omega

/-- A date that a quarter of a year contains resolves to it. -/
lemma resolve_of_contains {quarter : Int} {r : Quarter} {d : Date} (hy : 1 ≤ year)
    (hq : 1 ≤ quarter ∧ quarter ≤ 4) (hr : ofIndex year quarter a = .ok r)
    (hlow : r.start.dayNumber ≤ d.dayNumber) (hhigh : d.dayNumber ≤ r.stop.dayNumber) :
    resolve d a = .ok r := by
  obtain ⟨rfl, rfl, hstart, hstop⟩ := (ofIndex_eq_ok_iff hy hq.1).1 hr
  rw [hstart] at hlow
  rw [hstop] at hhigh
  have hfound := Anchor.locate_eq d.valid.2 hq hlow (Int.lt_of_le_sub_one hhigh)
  exact resolve_eq_ok_iff.2 ⟨hy, hfound, hstart, hstop⟩

end Quarter

/-! ## On the calls -/

namespace Call

variable {definition : Value} {a : Anchor}

lemma exists_quarterStart_iff (h : definition.anchor? = some a) {y q : Int}
    (hy : minYear ≤ y ∧ y ≤ maxYear) (hq : 1 ≤ q ∧ q ≤ 4) :
    (∃ first, quarterStart (.int y) (.int q) definition = .ok first) ↔
      a.startDay y q ≤ maxDay := by
  have hfirst := a.startDay_nonneg hy.1 hq.1
  rw [← Date.exists_dayNumber_eq_iff hfirst]
  refine exists_congr fun first => (quarterStart_eq_ok_iff h).trans ?_
  exact ⟨fun hcall => hcall.2.2, fun hday => ⟨hy, hq, hday⟩⟩

lemma exists_quarterEnd_iff (h : definition.anchor? = some a) {y q : Int}
    (hy : minYear ≤ y ∧ y ≤ maxYear) (hq : 1 ≤ q ∧ q ≤ 4) :
    (∃ last, quarterEnd (.int y) (.int q) definition = .ok last) ↔
      a.startDay y (q + 1) - 1 ≤ maxDay := by
  have hlast := a.lastDay_nonneg hy.1 hq.1
  rw [← Date.exists_dayNumber_eq_iff hlast]
  refine exists_congr fun last => (quarterEnd_eq_ok_iff h).trans ?_
  exact ⟨fun hcall => hcall.2.2, fun hday => ⟨hy, hq, hday⟩⟩

lemma startMonthOfQuarter_eq (h : definition.anchor? = some a) {q : Numeral}
    (hq : 1 ≤ q.value ∧ q.value ≤ 4) :
    startMonthOfQuarter (.number q) definition = .ok (a.startMonth q.value) := by
  rw [startMonthOfQuarter, anchorFor_eq_ok h, ok_bind, Value.requireQuarter_number,
    checkQuarter_eq_ok_iff.2 ⟨hq, rfl⟩, liftM_ok, ok_bind, pure_eq_ok]

lemma quarterDays_moment (first last : Moment) :
    quarterDays (.moment first) (.moment last) = .ok (last.dayNumber - first.dayNumber + 1) := rfl

lemma quarterDays_date (first last : Date) :
    quarterDays (.date first) (.date last) = .ok (last.dayNumber - first.dayNumber + 1) := rfl

lemma quarterContains_moment (first last v : Moment) :
    quarterContains (.moment first) (.moment last) (.moment v) =
      .ok (decide (first.dayNumber ≤ v.dayNumber ∧ v.dayNumber ≤ last.dayNumber)) := by
  have hbound : ∀ m : Moment, boundDay (.moment m) = .ok m.dayNumber := fun _ => rfl
  simp only [quarterContains, hbound, ok_bind, pure_eq_ok]
  split
  · rename_i hbefore
    simp only [Int.not_le.2 hbefore, false_and, decide_false]
  · rename_i hreached
    simp only [Int.not_lt.1 hreached, true_and]

lemma quarterContains_iff {first last : Date} {v : Moment} :
    quarterContains (.date first) (.date last) (.moment v) = .ok true ↔
      first.dayNumber ≤ v.dayNumber ∧ v.dayNumber ≤ last.dayNumber := by
  rw [Value.date, Value.date, quarterContains_moment, Except.ok.injEq, decide_eq_true_eq]
  rfl

lemma quartersOfYear_eq_ok_iff (h : definition.anchor? = some a) {y : Int} {v : Value} :
    quartersOfYear (.int y) definition = .ok v ↔
      (minYear ≤ y ∧ y ≤ maxYear) ∧
        ∃ qs, Quarter.ofYear y a = .ok qs ∧ .tuple .plain (qs.map .ofQuarter) = v := by
  have hlist : ∀ qs, Quarter.ofYear y a = .ok qs →
      (qs.map fun r => Value.quarter (.int y) (.int r.index) (.date r.start) (.date r.stop)) =
        qs.map .ofQuarter := by
    intro qs hqs
    refine List.map_congr_left fun r hr => ?_
    rw [Value.ofQuarter, Quarter.ofYear_year hqs r hr]
  simp only [quartersOfYear, anchorFor_eq_ok h, ok_bind, Value.int, Value.requireYear_number,
    bind_eq_ok_iff, liftM_eq_ok_iff, checkYear_eq_ok_iff, Numeral.value_plain, pure_eq_ok,
    Except.ok.injEq]
  constructor
  · rintro ⟨_, ⟨hy, rfl⟩, qs, hqs, rfl⟩
    exact ⟨hy, qs, hqs, congrArg _ (hlist qs hqs).symm⟩
  · rintro ⟨hy, qs, hqs, rfl⟩
    exact ⟨y, ⟨hy, rfl⟩, qs, hqs, congrArg _ (hlist qs hqs)⟩

lemma exists_quartersOfYear_iff (h : definition.anchor? = some a) {y : Int}
    (hy : minYear ≤ y ∧ y ≤ maxYear) :
    (∃ v, quartersOfYear (.int y) definition = .ok v) ↔ ∃ qs, Quarter.ofYear y a = .ok qs := by
  simp only [quartersOfYear_eq_ok_iff h]
  constructor
  · rintro ⟨_, -, qs, hqs, -⟩
    exact ⟨qs, hqs⟩
  · rintro ⟨qs, hqs⟩
    exact ⟨_, hy, qs, hqs, rfl⟩

end Call

/-- The laws of the quarters of one fiscal year, under a definition that comes down to an anchor. -/
structure QuartersTile (definition : Value) (a : Anchor) (year : Int) : Prop where
  /-- A first day that is representable is given, and no other is. -/
  start_iff : ∀ q, 1 ≤ q → q ≤ 4 →
    ((∃ first, Call.quarterStart (.int year) (.int q) definition = .ok first) ↔
      a.startDay year q ≤ maxDay)
  /-- A last day that is representable is given, and no other is. -/
  end_iff : ∀ q, 1 ≤ q → q ≤ 4 →
    ((∃ last, Call.quarterEnd (.int year) (.int q) definition = .ok last) ↔
      a.startDay year (q + 1) - 1 ≤ maxDay)
  /-- The four quarters are given exactly when all four last days are. -/
  year_iff : (∃ v, Call.quartersOfYear (.int year) definition = .ok v) ↔
    ∀ q, 1 ≤ q → q ≤ 4 → ∃ last, Call.quarterEnd (.int year) (.int q) definition = .ok last
  /-- A quarter starts on the anchor day of its start month. -/
  start_date : ∀ q first, Call.quarterStart (.int year) (.int q) definition = .ok first →
    first.dayNumber = a.startDay year q ∧ first.day = a.day ∧
      Call.startMonthOfQuarter (.int q) definition = .ok first.month
  /-- The next quarter starts on the day after a quarter ends. -/
  adjoining : ∀ q last next, q < 4 →
    Call.quarterEnd (.int year) (.int q) definition = .ok last →
    Call.quarterStart (.int year) (.int (q + 1)) definition = .ok next →
      last.dayNumber + 1 = next.dayNumber
  /-- The next fiscal year starts on the day after its fourth quarter ends. -/
  adjoining_years : ∀ last next,
    Call.quarterEnd (.int year) (.int 4) definition = .ok last →
    Call.quarterStart (.int (year + 1)) (.int 1) definition = .ok next →
      last.dayNumber + 1 = next.dayNumber
  /-- A quarter has 89 to 92 days. -/
  length : ∀ q first last,
    Call.quarterStart (.int year) (.int q) definition = .ok first →
    Call.quarterEnd (.int year) (.int q) definition = .ok last →
      ∃ days, Call.quarterDays (.date first) (.date last) = .ok days ∧ 89 ≤ days ∧ days ≤ 92
  /-- The quarters of the year, in order, are what their days resolve to; their lengths add up to
  that of a year. -/
  elements : ∀ v, Call.quartersOfYear (.int year) definition = .ok v →
    ∃ qs : List Quarter, v = .tuple .plain (qs.map .ofQuarter) ∧
      ((qs.map Quarter.days).sum = 365 ∨ (qs.map Quarter.days).sum = 366) ∧
      List.Forall₂ (fun q r =>
        Call.quarterStart (.int year) (.int q) definition = .ok r.start ∧
        Call.quarterEnd (.int year) (.int q) definition = .ok r.stop ∧
        r.year = year ∧ r.index = q ∧
        ∀ d : Moment, Call.quarterContains (.date r.start) (.date r.stop) (.moment d) = .ok true →
          Call.resolveQuarter (.moment d) definition = .ok r) [1, 2, 3, 4] qs

/-- **Quarters tile time.** -/
theorem quarters_tile_time {definition : Value} {a : Anchor} (h : definition.anchor? = some a)
    {year : Int} (hy : 1 ≤ year ∧ year ≤ 9999) : QuartersTile definition a year where
  start_iff q hq₁ hq₂ := Call.exists_quarterStart_iff h hy ⟨hq₁, hq₂⟩
  end_iff q hq₁ hq₂ := Call.exists_quarterEnd_iff h hy ⟨hq₁, hq₂⟩
  year_iff := by
    rw [Call.exists_quartersOfYear_iff h hy, Quarter.exists_ofYear_iff]
    refine forall_congr' fun q => forall_congr' fun hq₁ => forall_congr' fun hq₂ => ?_
    rw [Quarter.exists_ofIndex_iff hy.1 hq₁]
    exact (Call.exists_quarterEnd_iff h hy ⟨hq₁, hq₂⟩).symm
  start_date q first hfirst := by
    obtain ⟨-, hq, hday⟩ := (Call.quarterStart_eq_ok_iff h).1 hfirst
    have hdate := Anchor.eq_of_dayNumber_eq_startDay hday
    refine ⟨hday, congrArg YearMonthDay.day hdate, ?_⟩
    rw [hdate]
    exact Call.startMonthOfQuarter_eq h hq
  adjoining q last next hq hlast hnext := by
    obtain ⟨-, -, hend⟩ := (Call.quarterEnd_eq_ok_iff h).1 hlast
    obtain ⟨-, -, hstart⟩ := (Call.quarterStart_eq_ok_iff h).1 hnext
    rw [hend, hstart]
    exact Int.sub_add_cancel _ 1
  adjoining_years last next hlast hnext := by
    have hend : last.dayNumber = a.startDay year 5 - 1 :=
      ((Call.quarterEnd_eq_ok_iff h).1 hlast).2.2
    have hstart : next.dayNumber = a.startDay (year + 1) 1 :=
      ((Call.quarterStart_eq_ok_iff h).1 hnext).2.2
    rw [hend, hstart, a.startDay_five]
    exact Int.sub_add_cancel _ 1
  length q first last hfirst hlast := by
    obtain ⟨-, -, hstart⟩ := (Call.quarterStart_eq_ok_iff h).1 hfirst
    obtain ⟨-, -, hend⟩ := (Call.quarterEnd_eq_ok_iff h).1 hlast
    refine ⟨_, Call.quarterDays_date first last, ?_⟩
    have hstep := a.startDay_step year q
    rw [hstart, hend]
    simp only [Numeral.value_plain]
    omega
  elements v hv := by
    obtain ⟨-, qs, hqs, rfl⟩ := (Call.quartersOfYear_eq_ok_iff h).1 hv
    refine ⟨qs, rfl, Quarter.sum_days_ofYear hy.1 hqs, ?_⟩
    have helement : ∀ {q : Int} {r : Quarter}, 1 ≤ q ∧ q ≤ 4 → Quarter.ofIndex year q a = .ok r →
        Call.quarterStart (.int year) (.int q) definition = .ok r.start ∧
        Call.quarterEnd (.int year) (.int q) definition = .ok r.stop ∧
        r.year = year ∧ r.index = q ∧
        ∀ d : Moment, Call.quarterContains (.date r.start) (.date r.stop) (.moment d) = .ok true →
          Call.resolveQuarter (.moment d) definition = .ok r := by
      intro q r hq hr
      obtain ⟨hyear, hindex, hstart, hend⟩ := (Quarter.ofIndex_eq_ok_iff hy.1 hq.1).1 hr
      refine ⟨(Call.quarterStart_eq_ok_iff h).2 ⟨hy, hq, hstart⟩,
        (Call.quarterEnd_eq_ok_iff h).2 ⟨hy, hq, hend⟩, hyear, hindex, fun d hd => ?_⟩
      obtain ⟨hlow, hhigh⟩ := Call.quarterContains_iff.1 hd
      rw [Call.resolveQuarter_moment h, liftM_eq_ok_iff]
      exact Quarter.resolve_of_contains hy.1 hq hr hlow hhigh
    obtain _ | ⟨h₁, _ | ⟨h₂, _ | ⟨h₃, _ | ⟨h₄, _ | _⟩⟩⟩⟩ := Quarter.ofYear_eq_ok_iff.1 hqs
    exact .cons (helement (by decide) h₁) (.cons (helement (by decide) h₂)
      (.cons (helement (by decide) h₃) (.cons (helement (by decide) h₄) .nil)))

/-- A fiscal year whose quarters are all given, up to the start of the next one, and the last fiscal
year, of which the last quarter ends past the last day. -/
theorem quarters_tile_time_lateNovember :
    (Value.ofAnchor .lateNovember).anchor? = some .lateNovember ∧
      ((1 ≤ (2024 : Int) ∧ (2024 : Int) ≤ 9999) ∧ 1 ≤ (9999 : Int) ∧ (9999 : Int) ≤ 9999) ∧
      (∃ qs : List Quarter,
        Call.quartersOfYear (.int 2024) (.ofAnchor .lateNovember) =
          .ok (.tuple .plain (qs.map .ofQuarter)) ∧
        ((qs.map Quarter.days).sum = 365 ∨ (qs.map Quarter.days).sum = 366) ∧ qs.length = 4) ∧
      (∃ last next,
        Call.quarterEnd (.int 2024) (.int 4) (.ofAnchor .lateNovember) = .ok last ∧
        Call.quarterStart (.int 2025) (.int 1) (.ofAnchor .lateNovember) = .ok next ∧
        last.dayNumber + 1 = next.dayNumber) ∧
      ¬∃ v, Call.quartersOfYear (.int 9999) (.ofAnchor .lateNovember) = .ok v := by
  have hmiddle : QuartersTile (.ofAnchor .lateNovember) .lateNovember 2024 :=
    quarters_tile_time rfl (by decide)
  have hend : QuartersTile (.ofAnchor .lateNovember) .lateNovember 9999 :=
    quarters_tile_time rfl (by decide)
  have hends : ∀ q : Int, 1 ≤ q → q ≤ 4 →
      ∃ last, Call.quarterEnd (.int 2024) (.int q) (.ofAnchor .lateNovember) = .ok last := by
    intro q hq₁ hq₂
    refine (hmiddle.end_iff q hq₁ hq₂).2 ?_
    interval_cases q <;> decide
  obtain ⟨v, hv⟩ := hmiddle.year_iff.2 hends
  obtain ⟨qs, rfl, hsum, helements⟩ := hmiddle.elements v hv
  obtain ⟨last, hlast⟩ := hends 4 (by decide) (by decide)
  have hafter : QuartersTile (.ofAnchor .lateNovember) .lateNovember 2025 :=
    quarters_tile_time rfl (by decide)
  obtain ⟨next, hnext⟩ := (hafter.start_iff 1 (by decide) (by decide)).2 (by decide)
  refine ⟨rfl, by decide, ⟨qs, hv, hsum, helements.length_eq.symm⟩,
    ⟨last, next, hlast, hnext, hmiddle.adjoining_years last next hlast hnext⟩, ?_⟩
  rw [hend.year_iff]
  intro hall
  exact absurd ((hend.end_iff 4 (by decide) (by decide)).1 (hall 4 (by decide) (by decide)))
    (by decide)

end BusinessCalendar
