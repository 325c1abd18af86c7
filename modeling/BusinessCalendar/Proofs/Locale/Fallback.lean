import BusinessCalendar.Proofs.Locale.History

/-!
# Lenient and strict look-ups

There are two ways to the week convention of a code.  They differ in what they do about a code without
a locale, in how often they use the cache, and in nothing else.  **The lenient answer is known from
strict ones** (`lenient_from_strict`): it is the strict answer for the code, unless that is a locale
error; then it is the strict answer for `en_US`, after one warning.  A lenient look-up itself never
ends in a locale error.

* `LocaleData.strict_requote` — codes of the same spelling ask for one locale, and a strict answer
  changes at most in the code that it quotes.
* `FallsBack` — how the lenient answer follows from the strict ones; `LocaleData.fallsBack` shows it for
  the answers that the data determines, which are those of the calls over any cache that holds what the
  data has.
-/

namespace BusinessCalendar

/-! ## Failures and notices -/

lemma WordingFault.kind_ne_locale (fault : WordingFault) : fault.kind ≠ .locale := by
  cases fault with
  | tooManyDigits => exact nofun
  | foreign kindName reason => exact nofun

namespace Locale

variable {l : Locale Value} {w : Weekday} {f : Fault}

lemma weekStart_eq_ok (h : l.firstWeekday.integer?.bind Weekday.ofIndex? = some w) :
    l.weekStart = .ok w := by
  rw [weekStart, h]

lemma weekStart_error_kind (h : l.weekStart = .error f) : f.kind ≠ .locale := by
  rw [weekStart] at h
  split at h
  · cases h
  · simp only [bind_eq_error_iff, liftM_eq_wording_iff] at h
    rcases h with ⟨fault, -, rfl⟩ | ⟨literal, -, hf⟩
    · exact fault.kind_ne_locale
    · cases hf
      exact nofun

/-- What a locale publishes can be unusable; that is no locale error. -/
lemma convention_error_kind (h : l.convention.outcome = .error f) : f.kind ≠ .locale := by
  rw [convention] at h
  split at h
  · cases h
    exact nofun
  · simp only [bind_eq_error_iff, pure_eq_ok, reduceCtorEq, and_false, exists_false, or_false] at h
    exact weekStart_error_kind h

/-- A locale with a weekday and with a number of days that can be looked up has a convention. -/
lemma convention_eq_ok (hdays : l.minDays.unhashable? = none)
    (h : l.firstWeekday.integer?.bind Weekday.ofIndex? = some w) :
    l.convention.outcome = .ok { firstWeekday := w, rule := l.rule.1 } := by
  simp only [convention, hdays, weekStart_eq_ok h, ok_bind, pure_eq_ok]

end Locale

namespace LocaleRefusal

lemma fault_kind (refusal : LocaleRefusal) : refusal.fault.kind ≠ .locale := by
  cases refusal with
  | unknown reason => exact nofun
  | malformed reason => exact nofun

lemma notice_level (refusal : LocaleRefusal) (code : String) :
    (refusal.notice code).level = .warning := by
  cases refusal with
  | unknown reason => rfl
  | malformed reason => rfl

end LocaleRefusal

/-- A locale error with another code quoted in it; other failures quote none. -/
def Fault.requote (code literal : String) : Fault → Fault
  | .cause (.localeUnknown _ _ reason) => .cause (.localeUnknown code literal reason)
  | f => f

lemma Fault.requote_of_kind_ne {f : Fault} (h : f.kind ≠ .locale) (code literal : String) :
    f.requote code literal = f := by
  cases f with
  | cause c =>
    cases c with
    | localeUnknown _ _ _ => exact absurd rfl h
    | _ => rfl
  | _ => rfl

/-- The same failure, with the same notices, in other words. -/
def Logged.mapFault {α : Type} (f : Fault → Fault) (x : Logged α) : Logged α :=
  { x with outcome := x.outcome.mapError f }

namespace LocaleData

variable {data : LocaleData Value} {code code' : LocaleCode} {literal literal' : String} {f : Fault}

/-- A lenient look-up does not end in a locale error, whether or not there is a default locale. -/
lemma lenient_error_kind (h : (data.lenient code).outcome = .error f) : f.kind ≠ .locale := by
  rw [lenient] at h
  cases hcode : data code.identifier with
  | ok l =>
    rw [hcode] at h
    exact Locale.convention_error_kind h
  | error refusal =>
    rw [hcode] at h
    cases hdefault : data defaultLocale with
    | ok l =>
      rw [hdefault] at h
      exact Locale.convention_error_kind h
    | error again =>
      rw [hdefault] at h
      cases h
      exact again.fault_kind

/-- **The spelling of a code does not matter to a strict look-up**, except that a locale error quotes
the code as it was given. -/
theorem strict_requote (h : SameSpelling code.text code'.text) :
    data.strict code' literal' =
      (data.strict code literal).mapFault (Fault.requote code'.text literal') := by
  rw [strict, strict, LocaleCode.identifier_eq_iff.2 h]
  cases data code'.identifier with
  | error refusal => rfl
  | ok l =>
    simp only [Logged.mapFault]
    have houtcome : l.convention.outcome.mapError (Fault.requote code'.text literal') =
        l.convention.outcome := by
      cases hl : l.convention.outcome with
      | ok k => rfl
      | error f =>
        have hkept := f.requote_of_kind_ne (Locale.convention_error_kind hl) code'.text literal'
        exact congrArg Except.error hkept
    rw [houtcome]

end LocaleData

/-! ## The lenient answer from strict ones -/

/-- How the lenient answer for a code follows from the strict one, and from the strict one for the
default locale. -/
structure FallsBack (code : LocaleCode) (literal : String)
    (strict fallback lenient : Logged WeekConvention) : Prop where
  /-- A strict answer is the lenient one, with the same notices. -/
  agrees : ∀ k, strict.outcome = .ok k → lenient = strict
  /-- A failure for other reasons than the code is the same, and so are the notices before it. -/
  fails_alike : ∀ f, strict.outcome = .error f → f.kind ≠ .locale → lenient = strict
  /-- In place of a locale error there is the outcome for the default locale and one more notice, a
  warning about the same code for the same reason. -/
  falls_back : ∀ f, strict.outcome = .error f → f.kind = .locale →
    lenient.outcome = fallback.outcome ∧
      ∃ refusal : LocaleRefusal,
        f = .cause (.localeUnknown code.text literal refusal.reason) ∧
        (refusal.notice code.text).level = .warning ∧
        lenient.notices = refusal.notice code.text :: fallback.notices
  never_locale : ∀ f, lenient.outcome = .error f → f.kind ≠ .locale

lemma LocaleData.fallsBack {data : LocaleData Value} {l : Locale Value}
    (h : data defaultLocale = .ok l) (code : LocaleCode) (literal literal' : String) :
    FallsBack code literal (data.strict code literal) (data.strict .fallback literal')
      (data.lenient code) := by
  cases hcode : data code.identifier with
  | ok found =>
    have hsame : data.lenient code = data.strict code literal := by rw [strict, lenient, hcode]
    constructor
    case agrees => exact fun _ _ => hsame
    case fails_alike => exact fun _ _ _ => hsame
    case falls_back =>
      intro f hf hkind
      rw [strict, hcode] at hf
      exact absurd hkind (Locale.convention_error_kind hf)
    case never_locale => exact fun f hf => lenient_error_kind hf
  | error refusal =>
    have hstrict : data.strict code literal =
        .silent (raise (.localeUnknown code.text literal refusal.reason)) := by rw [strict, hcode]
    have hfallback : data.strict .fallback literal' = l.convention := by
      rw [strict, LocaleCode.identifier_fallback, h]
    have hlenient : data.lenient code =
        { l.convention with notices := refusal.notice code.text :: l.convention.notices } := by
      rw [lenient, hcode, h]
    rw [hstrict]
    constructor
    case agrees =>
      intro k hk
      cases hk
    case fails_alike =>
      intro f hf hkind
      cases hf
      exact absurd rfl hkind
    case falls_back =>
      intro f hf _
      cases hf
      rw [hlenient, hfallback]
      exact ⟨rfl, refusal, rfl, refusal.notice_level code.text, rfl⟩
    case never_locale => exact fun f hf => lenient_error_kind hf

/-- Every cache that calls leave behind, from an empty one on, holds what the data has. -/
lemma LocaleCache.faithful_run (data : LocaleData Value) (history : List LocaleRequest) :
    (run data .empty history).2.Faithful data := by
  rw [run_eq .empty .empty]
  exact LocaleCache.Faithful.empty.afterLookups _

/-- **The lenient answer follows from strict ones**, whatever is in the caches that the calls start
from; the default locale has the weekday that it publishes; and codes of one spelling have one strict
outcome, but for the code that it quotes. -/
theorem lenient_from_strict {data : LocaleData Value} {l : Locale Value} {w : Weekday}
    (hdefault : data defaultLocale = .ok l)
    (hweekday : l.firstWeekday.integer?.bind Weekday.ofIndex? = some w)
    {c d e : LocaleCache Value} (hc : c.Faithful data) (hd : d.Faithful data)
    (he : e.Faithful data) (given : GivenCode) :
    FallsBack given.code given.literal
        (Call.weekConventionOrRaise (some data) c given.value).1
        (Call.weekConventionOrRaise (some data) d (.text defaultLocale)).1
        (Call.weekConventionOf (some data) e given.value).1 ∧
      (l.minDays.unhashable? = none →
        ∃ k, (Call.weekConventionOrRaise (some data) d (.text defaultLocale)).1.outcome = .ok k ∧
          k.firstWeekday = w) ∧
      ∀ other : GivenCode, SameSpelling given.code.text other.code.text →
        (Call.weekConventionOrRaise (some data) d other.value).1 =
          (Call.weekConventionOrRaise (some data) c given.value).1.mapFault
            (Fault.requote other.code.text other.literal) := by
  have hfallback := Call.weekConventionOrRaise_fst hd
    { value := .text defaultLocale, code := .fallback, isCode := rfl }
  simp only at hfallback
  rw [Call.weekConventionOrRaise_fst hc, Call.weekConventionOf_fst he, hfallback]
  refine ⟨LocaleData.fallsBack hdefault _ _ _, ?_, ?_⟩
  · intro hdays
    rw [LocaleData.strict, LocaleCode.identifier_fallback, hdefault]
    exact ⟨_, Locale.convention_eq_ok hdays hweekday, rfl⟩
  · intro other hspelling
    rw [Call.weekConventionOrRaise_fst hd]
    exact LocaleData.strict_requote hspelling

/-- Locale data with one locale, in which weeks start on Sunday and any week counts. -/
def LocaleData.american : LocaleData Value := fun identifier =>
  if identifier = defaultLocale then
    .ok { name := defaultLocale, firstWeekday := .int 6, minDays := .int 1 }
  else .error (.unknown "unknown locale")

/-- A code without a locale is a strict failure and leniently has weeks from Sunday. -/
theorem lenient_from_strict_unknown :
    (∃ l, LocaleData.american defaultLocale = .ok l ∧
        l.firstWeekday.integer?.bind Weekday.ofIndex? = some .sunday) ∧
      LocaleCache.empty.Faithful LocaleData.american ∧
      (Call.weekConventionOrRaise (some .american) .empty (.text "xx-YY")).1.outcome =
        .error (.cause (.localeUnknown "xx-YY" (Text.quoted "xx-YY") "unknown locale")) ∧
      ∃ k, (Call.weekConventionOf (some .american) .empty (.text "xx-YY")).1.outcome = .ok k ∧
        k.firstWeekday = .sunday := by
  let given : GivenCode := { value := .text "xx-YY", code := { text := "xx-YY" }, isCode := rfl }
  have hempty : LocaleCache.empty.Faithful LocaleData.american :=
    LocaleCache.faithful_run .american []
  have hidentifier : given.code.identifier = "xx_YY" := by
    rw [LocaleCode.identifier, ← String.toList_inj, String.toList_map]
    decide
  have hstrict := Call.weekConventionOrRaise_fst hempty given
  rw [LocaleData.strict, hidentifier] at hstrict
  have hdefault : LocaleData.american defaultLocale =
      .ok { name := defaultLocale, firstWeekday := .int 6, minDays := .int 1 } := rfl
  obtain ⟨hfalls, hanswer, -⟩ := lenient_from_strict hdefault rfl hempty hempty hempty given
  obtain ⟨houtcome, -⟩ := hfalls.falls_back _ (congrArg Logged.outcome hstrict) rfl
  obtain ⟨k, hk, hsunday⟩ := hanswer rfl
  exact ⟨⟨_, hdefault, rfl⟩, hempty, congrArg Logged.outcome hstrict, k, houtcome.trans hk, hsunday⟩

end BusinessCalendar
