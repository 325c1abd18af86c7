import BusinessCalendar.Proofs.Outcome
import BusinessCalendar.Sorting

/-!
# What sorting by an order that can fail returns

The order that things are sorted by need not have an answer for all of their type.  It is enough
that it has one for the things that are in the list, and that it compares them by a key: then no
comparison fails, and **the things come back in the order of their keys** (`exists_sortBy`).

The parts of the sorting have a theorem each: the initial run is in order whether it rose or fell
(`exists_initialRun`), bisection keeps a window outside of which everything is on its side of the
thing to be placed (`Window`, `exists_place`), and a thing placed so leaves the list in order
(`exists_insertBy`).
-/

namespace BusinessCalendar

variable {α γ κ ε : Type} [LinearOrder κ]

/-- An order has an answer for any two of the things that `f` makes, by what they are made from: it
compares their keys. -/
def ComparesBy (before : α → α → Except ε Bool) (f : γ → α) (key : γ → κ) : Prop :=
  ∀ a b, before (f a) (f b) = .ok (decide (key a < key b))

/-- No thing of a list has a smaller key than one in front of it. -/
def InOrder (key : γ → κ) (as : List γ) : Prop := as.Pairwise fun a b => key a ≤ key b

section Order

variable {key : γ → κ} {a b : γ} {as front back : List γ}

lemma InOrder.cons_cons (hab : key a ≤ key b) (h : InOrder key (b :: as)) :
    InOrder key (a :: b :: as) := by
  have hrest := (List.pairwise_cons.1 h).1
  exact List.Pairwise.cons (List.forall_mem_cons.2 ⟨hab, fun c hc => hab.trans (hrest c hc)⟩) h

/-- A thing fits between what is no greater and what is greater. -/
lemma InOrder.insert (h : InOrder key (front ++ back)) (hfront : ∀ b ∈ front, key b ≤ key a)
    (hback : ∀ b ∈ back, key a < key b) : InOrder key (front ++ a :: back) := by
  obtain ⟨hfirst, hlast, hacross⟩ := List.pairwise_append.1 h
  refine List.pairwise_append.2 ⟨hfirst, hlast.cons fun b hb => (hback b hb).le, fun b hb => ?_⟩
  exact List.forall_mem_cons.2 ⟨hfront b hb, hacross b hb⟩

end Order

variable {before : α → α → Except ε Bool} {f : γ → α} {key : γ → κ}

/-! ## The initial run -/

section Run

variable (h : ComparesBy before f key)
include h

lemma exists_risingRun (last : γ) (as : List γ) :
    ∃ run rest, risingRun before (f last) (as.map f) = .ok (run.map f, rest.map f) ∧
      run ++ rest = as ∧ InOrder key (last :: run) := by
  induction as generalizing last with
  | nil => exact ⟨[], [], rfl, rfl, List.pairwise_singleton _ _⟩
  | cons a as ih =>
    rw [List.map_cons, risingRun, h a last, ok_bind]
    by_cases hlt : key a < key last
    · refine ⟨[], a :: as, ?_, rfl, List.pairwise_singleton _ _⟩
      rw [if_pos (decide_eq_true hlt)]
      rfl
    · obtain ⟨run, rest, hrun, happend, horder⟩ := ih a
      refine ⟨a :: run, rest, ?_, ?_, horder.cons_cons (not_lt.1 hlt)⟩
      · rw [if_neg (mt of_decide_eq_true hlt), hrun]
        rfl
      · rw [List.cons_append, happend]

/-- A run that falls is in order from its end. -/
lemma exists_fallingRun (last : γ) (as : List γ) :
    ∃ run rest, fallingRun before (f last) (as.map f) = .ok (run.map f, rest.map f) ∧
      run ++ rest = as ∧ InOrder (OrderDual.toDual ∘ key) (last :: run) := by
  induction as generalizing last with
  | nil => exact ⟨[], [], rfl, rfl, List.pairwise_singleton _ _⟩
  | cons a as ih =>
    rw [List.map_cons, fallingRun, h a last, ok_bind]
    by_cases hlt : key a < key last
    · obtain ⟨run, rest, hrun, happend, horder⟩ := ih a
      refine ⟨a :: run, rest, ?_, ?_, horder.cons_cons hlt.le⟩
      · rw [if_pos (decide_eq_true hlt), hrun]
        rfl
      · rw [List.cons_append, happend]
    · refine ⟨[], a :: as, ?_, rfl, List.pairwise_singleton _ _⟩
      rw [if_neg (mt of_decide_eq_true hlt)]
      rfl

/-- **What is in front of a list rises or falls, and is in order either way.** -/
theorem exists_initialRun (as : List γ) :
    ∃ run rest, initialRun before (as.map f) = .ok (run.map f, rest.map f) ∧
      (run ++ rest).Perm as ∧ InOrder key run := by
  match as with
  | [] => exact ⟨[], [], rfl, .refl _, .nil⟩
  | [a] => exact ⟨[a], [], rfl, .refl _, List.pairwise_singleton _ _⟩
  | a :: b :: as =>
    rw [List.map_cons, List.map_cons, initialRun, h b a, ok_bind]
    by_cases hlt : key b < key a
    · obtain ⟨run, rest, hrun, happend, horder⟩ := exists_fallingRun h b as
      refine ⟨(a :: b :: run).reverse, rest, ?_, ?_, ?_⟩
      · rw [if_pos (decide_eq_true hlt), hrun, List.map_reverse]
        rfl
      · rw [← happend]
        exact (List.reverse_perm _).append_right rest
      · have hfalls : InOrder (OrderDual.toDual ∘ key) (a :: b :: run) := horder.cons_cons hlt.le
        exact List.pairwise_reverse.2 hfalls
    · obtain ⟨run, rest, hrun, happend, horder⟩ := exists_risingRun h b as
      refine ⟨a :: b :: run, rest, ?_, ?_, horder.cons_cons (not_lt.1 hlt)⟩
      · rw [if_neg (mt of_decide_eq_true hlt), hrun]
        rfl
      · rw [← happend]
        exact .refl _

end Run

/-! ## Bisection -/

/-- What bisection knows about a sorted list: in front of the window nothing is greater than the thing
to be placed, and behind it everything is. -/
structure Window (key : γ → κ) (a : γ) (sorted : List γ) (low high : Nat) : Prop where
  low_le : low ≤ high
  high_le : high ≤ sorted.length
  in_front : ∀ b ∈ sorted.take low, key b ≤ key a
  behind : ∀ b ∈ sorted.drop high, key a < key b

namespace Window

variable {a : γ} {sorted : List γ} {low high middle : Nat} (h : Window key a sorted low high)
  (horder : InOrder key sorted)
include h horder

lemma lower (hmiddle : low ≤ middle ∧ middle < high) (hlength : middle < sorted.length)
    (hlt : key a < key sorted[middle]) : Window key a sorted low middle where
  low_le := hmiddle.1
  high_le := hlength.le
  in_front := h.in_front
  behind := by
    have hrest := horder.sublist (List.drop_sublist middle sorted)
    rw [List.drop_eq_getElem_cons hlength] at hrest ⊢
    have hfirst := (List.pairwise_cons.1 hrest).1
    exact List.forall_mem_cons.2 ⟨hlt, fun b hb => hlt.trans_le (hfirst b hb)⟩

lemma upper (hmiddle : low ≤ middle ∧ middle < high) (hlength : middle < sorted.length)
    (hle : key sorted[middle] ≤ key a) : Window key a sorted (middle + 1) high where
  low_le := hmiddle.2
  high_le := h.high_le
  in_front := by
    have hfront := horder.sublist (List.take_sublist (middle + 1) sorted)
    rw [List.take_succ_eq_append_getElem hlength] at hfront ⊢
    have hlast := (List.pairwise_append.1 hfront).2.2
    rw [List.forall_mem_append, List.forall_mem_singleton]
    exact ⟨fun b hb => (hlast b hb _ (List.mem_singleton_self _)).trans hle, hle⟩
  behind := h.behind

end Window

section Place

variable (h : ComparesBy before f key) {a : γ} {sorted : List γ}
include h

lemma place_step {low high : Nat} (hlt : low < high) {b : γ}
    (hb : sorted[low + (high - low) / 2]? = some b) :
    place before (f a) (sorted.map f) low high =
      if key a < key b then place before (f a) (sorted.map f) low (low + (high - low) / 2)
      else place before (f a) (sorted.map f) (low + (high - low) / 2 + 1) high := by
  have hmiddle : (sorted.map f)[low + (high - low) / 2]? = some (f b) := by
    rw [List.getElem?_map, hb, Option.map_some]
  rw [place, dif_pos hlt]
  simp only [hmiddle, h a b, ok_bind, decide_eq_true_eq]

variable (horder : InOrder key sorted)
include horder

/-- **Bisection closes the window.** -/
theorem exists_place {low high : Nat} (hwindow : Window key a sorted low high) :
    ∃ i, place before (f a) (sorted.map f) low high = .ok i ∧ Window key a sorted i i := by
  induction low, high using place.induct (sorted.map f) with
  | case1 low high hlt middle hnone =>
    have hlength := hwindow.high_le
    rw [List.getElem?_eq_none_iff, List.length_map] at hnone
    omega
  | case2 low high hlt middle b hsome ihlow ihhigh =>
    have hlength := hwindow.high_le
    have hmiddle : low ≤ middle ∧ middle < high := by omega
    rw [place_step h hlt (List.getElem?_eq_getElem (hmiddle.2.trans_le hlength))]
    split_ifs with hbefore
    · exact ihlow (hwindow.lower horder hmiddle _ hbefore)
    · exact ihhigh (hwindow.upper horder hmiddle _ (not_lt.1 hbefore))
  | case3 low high hdone =>
    have hclosed : low = high := Nat.le_antisymm hwindow.low_le (Nat.not_lt.1 hdone)
    subst hclosed
    refine ⟨low, ?_, hwindow⟩
    rw [place, dif_neg hdone]

/-- **A thing put in its place leaves a list in order.** -/
theorem exists_insertBy :
    ∃ bs, insertBy before (sorted.map f) (f a) = .ok (bs.map f) ∧ bs.Perm (a :: sorted) ∧
      InOrder key bs := by
  have hall : Window key a sorted 0 sorted.length := by
    constructor <;> simp
  obtain ⟨i, hplace, hwindow⟩ := exists_place h horder hall
  refine ⟨sorted.insertIdx i a, ?_, List.perm_insertIdx a sorted hwindow.high_le, ?_⟩
  · rw [insertBy, List.length_map, hplace, ok_bind, List.map_insertIdx]
    rfl
  · obtain ⟨front, back, rfl, rfl, hinsert⟩ :=
      List.exists_of_modifyTailIdx (List.cons a) hwindow.high_le
    have hfront := hwindow.in_front
    have hback := hwindow.behind
    rw [List.take_left] at hfront
    rw [List.drop_left] at hback
    rw [List.insertIdx, hinsert]
    exact horder.insert hfront hback

end Place

/-! ## Sorting -/

section Whole

variable (h : ComparesBy before f key)
include h

lemma exists_foldlM_insertBy (as sorted : List γ) (horder : InOrder key sorted) :
    ∃ bs, (as.map f).foldlM (insertBy before) (sorted.map f) = .ok (bs.map f) ∧
      bs.Perm (sorted ++ as) ∧ InOrder key bs := by
  induction as generalizing sorted with
  | nil =>
    refine ⟨sorted, rfl, ?_, horder⟩
    rw [List.append_nil]
  | cons a as ih =>
    obtain ⟨next, hinsert, hperm, hnext⟩ := exists_insertBy h (a := a) horder
    obtain ⟨bs, hbs, hpermAll, hsorted⟩ := ih next hnext
    refine ⟨bs, ?_, ?_, hsorted⟩
    · rw [List.map_cons, List.foldlM_cons, hinsert, ok_bind, hbs]
    · exact hpermAll.trans ((hperm.append_right as).trans List.perm_middle.symm)

/-- **Things that are compared by a key come back in the order of their keys.** -/
theorem exists_sortBy (as : List γ) :
    ∃ bs, sortBy before (as.map f) = .ok (bs.map f) ∧ bs.Perm as ∧ InOrder key bs := by
  obtain ⟨run, rest, hrun, hperm, horder⟩ := exists_initialRun h as
  obtain ⟨bs, hbs, hpermAll, hsorted⟩ := exists_foldlM_insertBy h rest run horder
  refine ⟨bs, ?_, hpermAll.trans hperm, hsorted⟩
  rw [sortBy, hrun, ok_bind]
  exact hbs

end Whole

end BusinessCalendar
