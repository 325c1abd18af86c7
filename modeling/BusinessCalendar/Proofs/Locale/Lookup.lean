import BusinessCalendar.Locale.Lookup
import BusinessCalendar.Proofs.Outcome

/-!
# What look-ups leave in the locale cache

The locale cache holds locales by code and drops the one that was used the longest time ago.  With
locale data that does not change, **a cache after any number of look-ups is known from these alone**
(`LocaleCache.Reflects.afterLookups`): it holds the codes that were last looked up with success, and
has counted every look-up.

* `mostRecent` — the distinct codes that were used last, the latest in front; `mostRecent_concat` is
  what one more use does.
* `LocaleCache.Faithful` — every entry is what the data has; `LocaleCache.locale_eq` says what a
  look-up then is, and everything else about one look-up follows from it.
* `LocaleCache.Reflects` — the invariant, kept by each look-up (`Reflects.locale`).
-/

namespace BusinessCalendar

/-! ## The latest of a history -/

section MostRecent

variable {α : Type} [DecidableEq α]

/-- The distinct items that were used last, at most `capacity` of them, the latest in front. -/
def mostRecent (capacity : Nat) (uses : List α) : List α := uses.reverse.eraseDups.take capacity

/-- Leaving out items and leaving out repetitions do not interfere. -/
lemma eraseDups_filter (p : α → Bool) :
    ∀ l : List α, (l.filter p).eraseDups = l.eraseDups.filter p
  | [] => rfl
  | a :: l => by
    have : (l.filter fun b => !b == a).length < l.length + 1 :=
      Nat.lt_succ_of_le (List.length_filter_le _ _)
    have hrest := eraseDups_filter p (l.filter fun b => !b == a)
    rw [List.eraseDups_cons]
    cases hp : p a with
    | true =>
      rw [List.filter_cons_of_pos hp, List.filter_cons_of_pos hp, List.eraseDups_cons, ← hrest,
        List.filter_filter, List.filter_filter]
      simp only [Bool.and_comm]
    | false =>
      -- what is left out for being `a` is left out by the condition already
      have hleft : l.filter p = (l.filter fun b => !b == a).filter p := by
        rw [List.filter_filter]
        refine List.filter_congr fun b _ => ?_
        by_cases hb : b = a
        · simp [hb, hp]
        · simp [hb]
      rw [List.filter_cons_of_neg (by simp [hp]), List.filter_cons_of_neg (by simp [hp]), ← hrest,
        hleft]
termination_by l => l.length

lemma nodup_eraseDups : ∀ l : List α, l.eraseDups.Nodup
  | [] => List.nodup_nil
  | a :: l => by
    have : (l.filter fun b => !b == a).length < l.length + 1 :=
      Nat.lt_succ_of_le (List.length_filter_le _ _)
    rw [List.eraseDups_cons, List.nodup_cons]
    refine ⟨?_, nodup_eraseDups (l.filter fun b => !b == a)⟩
    simp
termination_by l => l.length

/-- Without one of its items a list without repetitions gets at most one place shorter. -/
lemma take_filter_ne (a : α) {l : List α} (hl : l.Nodup) (n : Nat) :
    ((l.take (n + 1)).filter (· != a)).take n = (l.filter (· != a)).take n := by
  induction l generalizing n with
  | nil => simp
  | cons b l ih =>
    rw [List.nodup_cons] at hl
    by_cases hb : b = a
    · subst hb
      have hkeep : l.filter (· != b) = l := by
        rw [List.filter_eq_self]
        intro c hc
        simp only [bne_iff_ne]
        rintro rfl
        exact hl.1 hc
      have htake : (l.take n).filter (· != b) = l.take n := by
        rw [List.filter_eq_self]
        intro c hc
        exact List.filter_eq_self.1 hkeep c (List.mem_of_mem_take hc)
      simp [htake, hkeep]
    · cases n with
      | zero => simp
      | succ n =>
        simp [hb, ih hl.2 n]

/-- What is used becomes the latest, and what no longer fits goes. -/
lemma mostRecent_concat (capacity : Nat) (uses : List α) (a : α) :
    mostRecent capacity (uses ++ [a]) =
      (a :: (mostRecent capacity uses).filter (· != a)).take capacity := by
  have hreverse : (uses ++ [a]).reverse.eraseDups =
      a :: uses.reverse.eraseDups.filter (· != a) := by
    rw [List.reverse_append, List.reverse_singleton, List.singleton_append, List.eraseDups_cons,
      eraseDups_filter]
    rfl
  rw [mostRecent, mostRecent, hreverse]
  cases capacity with
  | zero => rfl
  | succ n => rw [List.take_succ_cons, List.take_succ_cons, take_filter_ne a (nodup_eraseDups _) n]

lemma length_mostRecent_le (capacity : Nat) (uses : List α) :
    (mostRecent capacity uses).length ≤ capacity :=
  List.length_take_le _ _

end MostRecent

/-! ## One look-up -/

namespace LocaleCache

variable {α : Type} {c : LocaleCache α} {code : LocaleCode} {l : Locale α}

/-- The codes of a cache, the most recently used first. -/
def codes (c : LocaleCache α) : List LocaleCode := c.entries.map Prod.fst

lemma find?_eq_none_iff : c.find? code = none ↔ code ∉ c.codes := by
  rw [find?, codes, Option.map_eq_none_iff, List.find?_eq_none]
  simp only [List.mem_map, beq_iff_eq, not_exists, not_and]

lemma mem_of_find? (h : c.find? code = some l) : (code, l) ∈ c.entries := by
  rw [find?, Option.map_eq_some_iff] at h
  obtain ⟨⟨code', l'⟩, hentry, rfl⟩ := h
  obtain rfl : code' = code := by simpa using List.find?_some hentry
  exact List.mem_of_find?_eq_some hentry

lemma toFront_codes (entries : List (LocaleCode × Locale α)) :
    (toFront entries code l).map Prod.fst = code :: (entries.map Prod.fst).filter (· != code) := by
  rw [toFront, List.map_cons, List.filter_map]
  rfl

/-- The words in which a failure is passed on do not matter to the cache. -/
lemma lookup_mapError {ε ε' : Type} (f : ε → ε')
    (fetch : LocaleCode → Except ε (Locale α)) :
    c.lookup code (fun s => (fetch s).mapError f) =
      ((c.lookup code fetch).1.mapError f, (c.lookup code fetch).2) := by
  simp only [lookup]
  cases c.find? code with
  | some l => rfl
  | none => cases fetch code <;> rfl

variable {data : LocaleData α}

/-- Every entry is what the data has for its code. -/
def Faithful (data : LocaleData α) (c : LocaleCache α) : Prop :=
  ∀ entry ∈ c.entries, data entry.1.identifier = .ok entry.2

lemma Faithful.empty : Faithful data .empty := by
  intro entry h
  cases h

/-- **A look-up in a faithful cache has the answer of the data.**  A found locale comes to the
front, as a hit or as a miss; a refusal is a miss and nothing else. -/
theorem locale_eq (hc : c.Faithful data) (code : LocaleCode) :
    c.locale data code =
      match data code.identifier with
      | .ok l => (.ok l, if code ∈ c.codes then c.touch code l else c.insert code l)
      | .error refusal => (.error refusal, c.miss) := by
  rw [locale, lookup]
  cases hfind : c.find? code with
  | some l =>
    have hmem := mem_of_find? hfind
    have hcode : code ∈ c.codes := List.mem_map_of_mem hmem
    simp only [hc _ hmem, hcode, if_true]
  | none =>
    have hcode := find?_eq_none_iff.1 hfind
    cases hdata : data code.identifier with
    | ok l => simp [hcode]
    | error refusal => simp

lemma locale_fst (hc : c.Faithful data) (code : LocaleCode) :
    (c.locale data code).1 = data code.identifier := by
  rw [locale_eq hc]
  cases data code.identifier <;> rfl

/-- A look-up that is refused is a miss and changes no entry. -/
lemma locale_snd_of_refused (hc : c.Faithful data) {refusal : LocaleRefusal}
    (h : data code.identifier = .error refusal) :
    (c.locale data code).2 = { c with misses := c.misses + 1 } := by
  rw [locale_eq hc, h]
  rfl

lemma mem_toFront {entries : List (LocaleCode × Locale α)} {entry : LocaleCode × Locale α}
    (h : entry ∈ toFront entries code l) : entry = (code, l) ∨ entry ∈ entries := by
  rcases List.mem_cons.1 h with h | h
  · exact .inl h
  · exact .inr (List.mem_of_mem_filter h)

lemma Faithful.locale (hc : c.Faithful data) (code : LocaleCode) :
    (c.locale data code).2.Faithful data := by
  rw [locale_eq hc]
  cases hdata : data code.identifier with
  | error refusal => exact hc
  | ok l =>
    have hfront : ∀ entry ∈ toFront c.entries code l, data entry.1.identifier = .ok entry.2 := by
      intro entry h
      rcases mem_toFront h with rfl | h
      · exact hdata
      · exact hc entry h
    by_cases hcode : code ∈ c.codes
    · simp only [hcode, if_true]
      exact hfront
    · simp only [hcode, if_false]
      intro entry h
      exact hfront entry (List.mem_of_mem_take h)

end LocaleCache

/-! ## What look-ups leave behind -/

namespace LocaleData

variable {α : Type} {data : LocaleData α} {code : LocaleCode}

/-- Whether the data has a locale for a code. -/
def has (data : LocaleData α) (code : LocaleCode) : Bool := (data code.identifier).isOk

lemma has_of_ok {l : Locale α} (h : data code.identifier = .ok l) : data.has code = true := by
  rw [has, h]
  rfl

lemma has_of_error {refusal : LocaleRefusal} (h : data code.identifier = .error refusal) :
    data.has code = false := by
  rw [has, h]
  rfl

end LocaleData

namespace LocaleCache

variable {α : Type} {data : LocaleData α} {c : LocaleCache α} {lookups : List LocaleCode}

/-- A cache after look-ups, the latest of them last: it holds the codes that were last looked up
with success, each with the locale of the data, and has counted every look-up. -/
structure Reflects (data : LocaleData α) (lookups : List LocaleCode) (c : LocaleCache α) :
    Prop where
  codes_eq : c.codes = mostRecent localeCacheCapacity (lookups.filter data.has)
  faithful : c.Faithful data
  count : c.hits + c.misses = lookups.length

lemma Reflects.empty : Reflects data [] .empty where
  codes_eq := rfl
  faithful := .empty
  count := rfl

/-- One more look-up. -/
lemma Reflects.locale (h : c.Reflects data lookups) (code : LocaleCode) :
    (c.locale data code).2.Reflects data (lookups ++ [code]) := by
  have hcount := h.count
  refine ⟨?_, h.faithful.locale code, ?_⟩
  · rw [locale_eq h.faithful, List.filter_append]
    cases hdata : data code.identifier with
    | error refusal =>
      rw [List.filter_cons_of_neg (by simp [LocaleData.has_of_error hdata]), List.filter_nil,
        List.append_nil]
      exact h.codes_eq
    | ok l =>
      rw [List.filter_cons_of_pos (LocaleData.has_of_ok hdata), List.filter_nil,
        mostRecent_concat, ← h.codes_eq]
      by_cases hcode : code ∈ c.codes
      · -- a code that is there already leaves its place, so that nothing has to go
        have hshorter : (c.codes.filter (· != code)).length < localeCacheCapacity := by
          have hlength := length_mostRecent_le localeCacheCapacity (lookups.filter data.has)
          rw [← h.codes_eq] at hlength
          refine Nat.lt_of_lt_of_le ?_ hlength
          exact List.length_filter_lt_length_iff_exists.2 ⟨code, hcode, by simp⟩
        rw [List.take_of_length_le (by simpa using hshorter)]
        simp only [hcode, if_true]
        exact toFront_codes c.entries
      · simp only [hcode, if_false]
        rw [codes, insert, List.map_take, toFront_codes]
        rfl
  · rw [locale_eq h.faithful, List.length_append, List.length_singleton, ← hcount]
    cases data code.identifier with
    | error refusal => rfl
    | ok l =>
      by_cases hcode : code ∈ c.codes
      · simp only [hcode, if_true, touch]
        omega
      · simp only [hcode, if_false, insert]
        omega

/-- The cache that look-ups leave behind, one after the other. -/
def afterLookups (data : LocaleData α) (c : LocaleCache α) (lookups : List LocaleCode) :
    LocaleCache α :=
  lookups.foldl (fun c code => (c.locale data code).2) c

lemma afterLookups_append (c : LocaleCache α) (first rest : List LocaleCode) :
    c.afterLookups data (first ++ rest) = (c.afterLookups data first).afterLookups data rest :=
  List.foldl_append

lemma Faithful.afterLookups (hc : c.Faithful data) (lookups : List LocaleCode) :
    (c.afterLookups data lookups).Faithful data := by
  induction lookups generalizing c with
  | nil => exact hc
  | cons code lookups ih => exact ih (hc.locale code)

/-- Any number of look-ups. -/
lemma Reflects.afterLookups (h : c.Reflects data lookups) (more : List LocaleCode) :
    (c.afterLookups data more).Reflects data (lookups ++ more) := by
  induction more generalizing c lookups with
  | nil =>
    rw [List.append_nil]
    exact h
  | cons code more ih =>
    rw [List.append_cons]
    exact ih (h.locale code)

end LocaleCache

end BusinessCalendar
