import BusinessCalendar.Call.Locale
import BusinessCalendar.Proofs.Locale.Lookup

/-!
# The locale cache over a history of calls

Locale data that does not change is behind a cache that does: it grows, drops entries and counts.
**No call can tell, and the cache is known from the calls alone** (`localeCache_exact`).

* `SameSpelling` — texts that differ in hyphens and underscores only; `LocaleCode.identifier_eq_iff`
  says that they share one identifier with each other and with no other text.
* `LocaleRequest`, `LocaleCache.run` — the calls that look up a code, and a history of them.
* `LocaleRequest.lookups` — the look-ups that a call comes down to.
* `LocaleData.strict`, `LocaleData.lenient` — the conventions that the data alone determines;
  `LocaleCache.conventionOrRaise_eq` and `LocaleCache.convention_eq` say that these are the answers over
  any faithful cache, and what is left of it.
* `LocaleRequest.answer_fst_eq`, `LocaleRequest.answer_snd` — what a call answers and leaves
  behind.
-/

namespace BusinessCalendar

/-! ## Spellings of a code -/

/-- Characters that stand for each other in a code: a hyphen and an underscore do. -/
def SameInCode (a b : Char) : Prop := a = b ∨ (a = '-' ∨ a = '_') ∧ (b = '-' ∨ b = '_')

/-- Texts that differ in hyphens and underscores only. -/
def SameSpelling (s t : String) : Prop := List.Forall₂ SameInCode s.toList t.toList

lemma sameInCode_iff {a b : Char} :
    SameInCode a b ↔ (if a = '-' then '_' else a) = (if b = '-' then '_' else b) := by
  by_cases ha : a = '-'
  · by_cases hb : b = '-'
    · simp [SameInCode, ha, hb]
    · simp [SameInCode, ha, hb, eq_comm]
  · by_cases hb : b = '-'
    · simp [SameInCode, ha, hb]
    · simp only [SameInCode, ha, hb, false_or, if_false, or_iff_left_iff_imp, and_imp]
      rintro rfl rfl
      rfl

/-- **Locale data is asked for the same identifier exactly by codes of the same spelling.** -/
theorem LocaleCode.identifier_eq_iff {s t : LocaleCode} :
    s.identifier = t.identifier ↔ SameSpelling s.text t.text := by
  rw [identifier, identifier, ← String.toList_inj, String.toList_map, String.toList_map,
    ← List.forall₂_eq_eq_eq, List.forall₂_map_left_iff, List.forall₂_map_right_iff, SameSpelling]
  simp only [← sameInCode_iff]

/-! ## Calls that look up a code -/

/-- The default locale as a code. -/
def LocaleCode.fallback : LocaleCode := { text := defaultLocale }

lemma LocaleCode.identifier_fallback : fallback.identifier = defaultLocale := by
  rw [identifier, ← String.toList_inj, String.toList_map]
  decide

/-- A locale code as a caller gives it. -/
structure GivenCode where
  value : Value
  code : LocaleCode
  isCode : Call.localeCode? value = some code

/-- The code as it is quoted back, like any value (`GivenCode.literal_value`). -/
def GivenCode.literal (given : GivenCode) : String := given.value.quotedText?.getD ""

/-- A code is a text, so there are always words for it. -/
lemma GivenCode.literal_value (given : GivenCode) : given.value.literal = .ok given.literal := by
  obtain ⟨value, code, hcode⟩ := given
  cases value with
  | text s => rfl
  | quarterDefinition d => rfl
  | weekendDefinition d => rfl
  | _ => cases hcode

/-- A call that looks up a locale code. -/
inductive LocaleRequest where
  | locale (given : GivenCode)
  | convention (given : GivenCode)
  | conventionOrRaise (given : GivenCode)

/-- What such a call answers, with the notices that it writes. -/
inductive LocaleAnswer where
  | locale (outcome : Outcome (Locale Value))
  | convention (logged : Logged WeekConvention)

namespace LocaleRequest

/-- The answer to a call, and the cache that it leaves behind. -/
def answer (data : LocaleData Value) (c : LocaleCache Value) :
    LocaleRequest → LocaleAnswer × LocaleCache Value
  | locale given => (Call.localeOf (some data) c given.value).map .locale id
  | convention given => (Call.weekConventionOf (some data) c given.value).map .convention id
  | conventionOrRaise given =>
    (Call.weekConventionOrRaise (some data) c given.value).map .convention id

/-- The look-ups that a call comes down to: its code and, where the lenient convention has to do
without that, the default locale. -/
def lookups (data : LocaleData Value) : LocaleRequest → List LocaleCode
  | locale given | conventionOrRaise given => [given.code]
  | convention given => if data.has given.code then [given.code] else [given.code, .fallback]

end LocaleRequest

section Calls

variable {data : LocaleData Value} {c d : LocaleCache Value} {code : LocaleCode}

lemma Call.localeOf_given (given : GivenCode) :
    Call.localeOf (some data) c given.value =
      ((c.locale data given.code).1.mapError LocaleRefusal.fault,
        (c.locale data given.code).2) := by
  rw [Call.localeOf, given.isCode]
  exact LocaleCache.lookup_mapError LocaleRefusal.fault fun code => data code.identifier

lemma Call.weekConventionOf_given (given : GivenCode) :
    Call.weekConventionOf (some data) c given.value = c.convention data given.code := by
  simp only [Call.weekConventionOf, Call.conventionWith, given.isCode]

lemma Call.weekConventionOrRaise_given (given : GivenCode) :
    Call.weekConventionOrRaise (some data) c given.value =
      c.conventionOrRaise data given.code given.literal := by
  simp only [Call.weekConventionOrRaise, Call.conventionWith, given.isCode, GivenCode.literal]

/-- What locale data has for a code, or the failure for a code without a locale. -/
def LocaleData.strict (data : LocaleData Value) (code : LocaleCode) (literal : String) :
    Logged WeekConvention :=
  match data code.identifier with
  | .ok l => l.convention
  | .error refusal => .silent (raise (.localeUnknown code.text literal refusal.reason))

/-- What locale data has for a code or, after a warning, for the default locale. -/
def LocaleData.lenient (data : LocaleData Value) (code : LocaleCode) : Logged WeekConvention :=
  match data code.identifier with
  | .ok l => l.convention
  | .error refusal =>
    let fallback : Logged WeekConvention :=
      match data defaultLocale with
      | .ok l => l.convention
      | .error again => .silent (.error again.fault)
    { fallback with notices := refusal.notice code.text :: fallback.notices }

namespace LocaleCache

lemma locale_pair (hc : c.Faithful data) (code : LocaleCode) :
    c.locale data code = (data code.identifier, (c.locale data code).2) :=
  Prod.ext (locale_fst hc code) rfl

/-- The lenient convention looks up the default locale only where the code has none. -/
lemma convention_eq (hc : c.Faithful data) (code : LocaleCode) :
    c.convention data code =
      (data.lenient code,
        c.afterLookups data (if data.has code then [code] else [code, .fallback])) := by
  have hdefault := locale_pair (hc.locale code) .fallback
  rw [LocaleCode.identifier_fallback] at hdefault
  simp only [LocaleCode.fallback] at hdefault
  rw [convention, locale_pair hc, LocaleData.lenient, LocaleData.has]
  cases data code.identifier with
  | ok l => rfl
  | error refusal =>
    simp only
    rw [hdefault]
    cases data defaultLocale with
    | ok l => rfl
    | error again => rfl

lemma conventionOrRaise_eq (hc : c.Faithful data) (code : LocaleCode) (literal : String) :
    c.conventionOrRaise data code literal =
      (data.strict code literal, (c.locale data code).2) := by
  rw [conventionOrRaise, locale_pair hc, LocaleData.strict]
  cases data code.identifier with
  | ok l => rfl
  | error refusal => rfl

end LocaleCache

lemma Call.weekConventionOrRaise_fst (hc : c.Faithful data) (given : GivenCode) :
    (weekConventionOrRaise (some data) c given.value).1 =
      data.strict given.code given.literal := by
  rw [weekConventionOrRaise_given, LocaleCache.conventionOrRaise_eq hc]

lemma Call.weekConventionOf_fst (hc : c.Faithful data) (given : GivenCode) :
    (weekConventionOf (some data) c given.value).1 = data.lenient given.code := by
  rw [weekConventionOf_given, LocaleCache.convention_eq hc]

namespace LocaleRequest

/-- **Faithful caches cannot be told apart** by a call. -/
theorem answer_fst_eq (hc : c.Faithful data) (hd : d.Faithful data) (r : LocaleRequest) :
    (r.answer data c).1 = (r.answer data d).1 := by
  cases r with
  | locale given =>
    simp only [answer, Call.localeOf_given, Prod.map_fst, LocaleCache.locale_fst hc,
      LocaleCache.locale_fst hd]
  | convention given =>
    simp only [answer, Call.weekConventionOf_given, Prod.map_fst,
      LocaleCache.convention_eq hc, LocaleCache.convention_eq hd]
  | conventionOrRaise given =>
    simp only [answer, Call.weekConventionOrRaise_given, Prod.map_fst,
      LocaleCache.conventionOrRaise_eq hc, LocaleCache.conventionOrRaise_eq hd]

/-- A call leaves behind what its look-ups leave behind. -/
lemma answer_snd (hc : c.Faithful data) (r : LocaleRequest) :
    (r.answer data c).2 = c.afterLookups data (r.lookups data) := by
  cases r with
  | locale given =>
    simp only [answer, Call.localeOf_given]
    rfl
  | convention given =>
    simp only [answer, Call.weekConventionOf_given, Prod.map_snd, id_eq,
      LocaleCache.convention_eq hc, lookups]
  | conventionOrRaise given =>
    simp only [answer, Call.weekConventionOrRaise_given, Prod.map_snd, id_eq,
      LocaleCache.conventionOrRaise_eq hc]
    rfl

end LocaleRequest

end Calls

/-! ## Histories -/

/-- The answers to calls, one after the other over one cache, and what is left of it. -/
def LocaleCache.run (data : LocaleData Value) :
    LocaleCache Value → List LocaleRequest → List LocaleAnswer × LocaleCache Value
  | c, [] => ([], c)
  | c, r :: history =>
    let (answer, c) := r.answer data c
    let (answers, c) := run data c history
    (answer :: answers, c)

/-- The look-ups of a history, in order. -/
def LocaleRequest.allLookups (data : LocaleData Value) (history : List LocaleRequest) :
    List LocaleCode :=
  history.flatMap fun r => r.lookups data

/-- Over a faithful cache every call of a history has the answer that it has over any other one, and
the cache changes by the look-ups alone. -/
lemma LocaleCache.run_eq {data : LocaleData Value} {c d : LocaleCache Value}
    (hc : c.Faithful data) (hd : d.Faithful data) (history : List LocaleRequest) :
    c.run data history =
      (history.map fun r => (r.answer data d).1,
        c.afterLookups data (LocaleRequest.allLookups data history)) := by
  induction history generalizing c with
  | nil => rfl
  | cons r history ih =>
    have hrest := ih (hc.afterLookups (r.lookups data))
    simp only [run, LocaleRequest.answer_fst_eq hc hd r, LocaleRequest.answer_snd hc r, hrest,
      LocaleRequest.allLookups, List.map_cons, List.flatMap_cons, afterLookups_append]

/-- The laws of a cache that starts empty and has seen a history of calls.  A part of a history is a
history, so they hold after each of its calls. -/
structure LocaleCache.Exact (data : LocaleData Value) (history : List LocaleRequest) : Prop where
  /-- No call can tell that there is a cache: answers, failures and notices are those of a first
  call. -/
  answers_eq : (run data .empty history).1 = history.map fun r => (r.answer data .empty).1
  codes_eq : (run data .empty history).2.codes =
    mostRecent 128 ((LocaleRequest.allLookups data history).filter data.has)
  /-- A code is kept with what the data has for its identifier, the form of the code in which hyphens
  are underscores (`LocaleCode.identifier_eq_iff`). -/
  entry_eq : ∀ entry ∈ (run data .empty history).2.entries,
    data entry.1.identifier = .ok entry.2
  count : (run data .empty history).2.hits + (run data .empty history).2.misses =
    (LocaleRequest.allLookups data history).length
  /-- The cache changes by the look-ups of the calls, one after the other. -/
  cache_eq : (run data .empty history).2 =
    afterLookups data .empty (LocaleRequest.allLookups data history)
  /-- After any look-ups, one that is refused is a miss and changes no entry. -/
  refused : ∀ (lookups : List LocaleCode) (code : LocaleCode) (refusal : LocaleRefusal),
    data code.identifier = .error refusal →
      afterLookups data .empty (lookups ++ [code]) =
        { afterLookups data .empty lookups with
          misses := (afterLookups data .empty lookups).misses + 1 }

/-- **The locale cache is transparent and exact.**  Whatever calls were made over it, each had the
answer and the notices of a first call; the cache holds the latest 128 distinct codes that were
looked up with success, each with its locale; and it has counted every look-up. -/
theorem localeCache_exact (data : LocaleData Value) (history : List LocaleRequest) :
    LocaleCache.Exact data history := by
  have hempty : LocaleCache.Reflects data [] .empty := .empty
  have hrun := LocaleCache.run_eq hempty.faithful hempty.faithful history
  have hcache := hempty.afterLookups (LocaleRequest.allLookups data history)
  rw [List.nil_append] at hcache
  constructor
  case answers_eq => rw [hrun]
  case codes_eq =>
    rw [hrun]
    exact hcache.codes_eq
  case entry_eq =>
    rw [hrun]
    exact hcache.faithful
  case count =>
    rw [hrun]
    exact hcache.count
  case cache_eq => rw [hrun]
  case refused =>
    intro lookups code refusal h
    rw [LocaleCache.afterLookups_append]
    exact LocaleCache.locale_snd_of_refused (hempty.faithful.afterLookups lookups) h

/-- Locale data with one locale, and a code for it that is written with a hyphen. -/
example (l : Locale Value) :
    (LocaleCache.empty.afterLookups
      (fun identifier => if identifier = "de_DE" then .ok l else .error (.unknown identifier))
      [{ text := "de-DE" }]).entries = [({ text := "de-DE" }, l)] := by
  cbv

end BusinessCalendar
