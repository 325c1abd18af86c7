import BusinessCalendar.Fault
import Mathlib

/-!
# Reading a rendering back

A rendering is a headline and one line for each particular that is listed, under a label.  A text can
look like a headline or begin with a label of its own, and still **a rendering tells everything that its
diagnostic says, as long as each text of the diagnostic stands on one line**
(`rendering_loses_nothing`).  It is read back in three steps.

* `textLines` — the lines of a text; those of a rendering are the headline and the particulars
  (`Diagnostic.textLines_render`).
* `Diagnostic.headline_eq_iff` — the first `[` ends the severity and the next `]` the code.
* `Diagnostic.entry` — what the lines say under a label.  No label begins with another one, so this is
  the particular that was listed under it (`Diagnostic.entry_entries`), whatever the others say.

`Fault.kind_isCalendar_iff` says which failures carry a rendering as their message.
-/

namespace BusinessCalendar

/-! ## Lines -/

/-- A text without a line break. -/
def OneLine (s : String) : Prop := '\n' ∉ s.toList

instance (s : String) : Decidable (OneLine s) := by unfold OneLine; infer_instance

lemma OneLine.append {s t : String} (hs : OneLine s) (ht : OneLine t) : OneLine (s ++ t) := by
  rw [OneLine, String.toList_append, List.mem_append, not_or]
  exact ⟨hs, ht⟩

/-- The lines of a text. -/
def textLines (s : String) : List String := (s.toList.splitOn '\n').map String.ofList

lemma textLines_intercalate {ls : List String} (hne : ls ≠ []) (h : ∀ l ∈ ls, OneLine l) :
    textLines ("\n".intercalate ls) = ls := by
  have hbreaks : ∀ cs ∈ ls.map String.toList, '\n' ∉ cs := List.forall_mem_map.2 h
  have hnil : ls.map String.toList ≠ [] := by simpa using hne
  rw [textLines, String.toList_intercalate, show "\n".toList = ['\n'] from rfl,
    List.splitOn_intercalate _ hbreaks hnil, List.map_map]
  simp [Function.comp_def]

/-- A mark that two texts do not contain shows where they end. -/
lemma append_mark_inj {c : Char} {xs ys s t : List Char} (hxs : c ∉ xs) (hys : c ∉ ys) :
    xs ++ c :: s = ys ++ c :: t ↔ xs = ys ∧ s = t := by
  induction xs generalizing ys with
  | nil =>
    cases ys with
    | nil => simp
    | cons y ys => simp [(List.ne_of_not_mem_cons hys)]
  | cons x xs ih =>
    cases ys with
    | nil => simp [(List.ne_of_not_mem_cons hxs).symm]
    | cons y ys =>
      have hrest := ih (List.not_mem_of_not_mem_cons hxs) (List.not_mem_of_not_mem_cons hys)
      simp only [List.cons_append, List.cons.injEq, hrest, and_assoc]

namespace DiagnosticCode

lemma ofName?_name (c : DiagnosticCode) : ofName? c.name = some c := by
  cases c <;> rfl

lemma name_inj {c d : DiagnosticCode} : c.name = d.name ↔ c = d := by
  constructor
  · intro h
    have hread := congrArg ofName? h
    rw [ofName?_name, ofName?_name] at hread
    exact Option.some.inj hread
  · rintro rfl
    rfl

lemma name_marks (c : DiagnosticCode) : OneLine c.name ∧ ']' ∉ c.name.toList := by
  cases c <;> decide

end DiagnosticCode

namespace Diagnostic

/-! ## Headlines -/

lemma headline_toList {τ : Type} (d : Diagnostic τ) :
    d.headline.toList = d.severity.toList ++
      '[' :: (d.code.name.toList ++ ']' :: (": ".toList ++ d.message.toList)) := by
  simp [headline]

/-- **A headline tells the severity, the code and the message apart.** -/
theorem headline_eq_iff {d e : Diagnostic String} (hd : '[' ∉ d.severity.toList)
    (he : '[' ∉ e.severity.toList) :
    d.headline = e.headline ↔
      d.severity = e.severity ∧ d.code = e.code ∧ d.message = e.message := by
  rw [← String.toList_inj, headline_toList, headline_toList, append_mark_inj hd he,
    append_mark_inj d.code.name_marks.2 e.code.name_marks.2, List.append_cancel_left_eq,
    String.toList_inj, String.toList_inj, String.toList_inj, DiagnosticCode.name_inj]

/-! ## Particulars -/

/-- What is listed of a particular: where there is none, and where it is empty, nothing is. -/
def listed (particular : Option String) : Option String := particular.filter (· != "")

lemma line_eq (label : String) (particular : Option String) :
    line label particular = ((listed particular).map ("  = " ++ label ++ ·)).toList := by
  cases particular with
  | none => rfl
  | some t =>
    by_cases h : t = ""
    · simp [line, listed, h, Particular.listed]
    · simp [line, listed, Option.filter, h, Particular.listed, Shown.text]

/-- The particulars under their labels, in the order in which they are listed. -/
def particulars (d : Diagnostic String) : List (String × Option String) :=
  [("function: ", d.function), ("argument: ", d.argument), ("received: ", d.received),
    ("help: ", d.hint), ("note: see ", d.helpUrl)]

/-- The lines of labelled particulars. -/
def entries (ps : List (String × Option String)) : List String :=
  ps.flatMap fun p => line p.1 p.2

lemma lines_eq (d : Diagnostic String) : d.lines = d.headline :: entries d.particulars := by
  simp [lines, entries, particulars]

/-- Neither of two labels begins with the other. -/
def Apart (label other : String) : Prop :=
  ¬label.toList <+: other.toList ∧ ¬other.toList <+: label.toList

instance (label other : String) : Decidable (Apart label other) := by
  unfold Apart; infer_instance

lemma Apart.symm {label other : String} (h : Apart label other) : Apart other label :=
  ⟨h.2, h.1⟩

/-- What a line says under a label, if that is the label it has. -/
def saidUnder (label l : String) : Option String :=
  (l.toList.dropPrefix? ("  = " ++ label).toList).map String.ofList

lemma saidUnder_own (label t : String) : saidUnder label ("  = " ++ label ++ t) = some t := by
  rw [saidUnder, String.toList_append, List.dropPrefix?_append_of_beq _ (beq_self_eq_true _)]
  simp

lemma saidUnder_other {label other : String} (h : Apart label other) (t : String) :
    saidUnder label ("  = " ++ other ++ t) = none := by
  rw [saidUnder, Option.map_eq_none_iff, Option.eq_none_iff_forall_ne_some]
  intro rest hrest
  obtain ⟨start, heq, hstart⟩ := List.dropPrefix?_eq_some_iff.1 hrest
  rw [eq_of_beq hstart, String.toList_append, String.toList_append, String.toList_append,
    List.append_assoc, List.append_assoc, List.append_cancel_left_eq] at heq
  -- both labels begin the same text, so one of them begins the other
  rcases List.prefix_or_prefix_of_prefix ⟨rest, heq.symm⟩ ⟨t.toList, rfl⟩ with hle | hle
  · exact h.1 hle
  · exact h.2 hle

/-- What the lines say under a label. -/
def entry (label : String) (ls : List String) : Option String := ls.findSome? (saidUnder label)

lemma entry_line_own (label : String) (p : Option String) (rest : List String) :
    entry label (line label p ++ rest) = (listed p).or (entry label rest) := by
  rw [entry, line_eq, List.findSome?_append]
  cases listed p with
  | none => rfl
  | some t => simp [saidUnder_own]

lemma entry_line_other {label other : String} (h : Apart label other) (p : Option String)
    (rest : List String) : entry label (line other p ++ rest) = entry label rest := by
  rw [entry, line_eq, List.findSome?_append]
  cases listed p with
  | none => rfl
  | some t => simp [saidUnder_other h, entry]

lemma entry_entries_of_apart {label : String} {ps : List (String × Option String)}
    (h : ∀ p ∈ ps, Apart label p.1) : entry label (entries ps) = none := by
  induction ps with
  | nil => rfl
  | cons p ps ih =>
    obtain ⟨hp, hps⟩ := List.forall_mem_cons.1 h
    rw [entries, List.flatMap_cons, entry_line_other hp]
    exact ih hps

/-- **Under each label the lines say what was listed under it**, whatever the other particulars are. -/
theorem entry_entries {ps : List (String × Option String)}
    (hps : ps.Pairwise fun p q => Apart p.1 q.1) {label : String} {p : Option String}
    (h : (label, p) ∈ ps) : entry label (entries ps) = listed p := by
  induction ps with
  | nil => cases h
  | cons q ps ih =>
    obtain ⟨hq, hrest⟩ := List.pairwise_cons.1 hps
    rw [entries, List.flatMap_cons]
    rcases List.mem_cons.1 h with rfl | hmem
    · rw [entry_line_own]
      exact (congrArg _ (entry_entries_of_apart hq)).trans (Option.or_none ..)
    · rw [entry_line_other (hq _ hmem).symm]
      exact ih hrest hmem

/-- The labels of the particulars are apart. -/
lemma particulars_apart (d : Diagnostic String) :
    d.particulars.Pairwise fun p q => Apart p.1 q.1 := by
  have hlabels : (d.particulars.map Prod.fst).Pairwise Apart := by
    simp only [particulars, List.map_cons, List.map_nil]
    decide
  exact List.pairwise_map.1 hlabels

/-- **The lines of the particulars are the same exactly when the same is listed under each label.** -/
theorem entries_particulars_eq_iff {d e : Diagnostic String} :
    entries d.particulars = entries e.particulars ↔
      listed d.function = listed e.function ∧ listed d.argument = listed e.argument ∧
        listed d.received = listed e.received ∧ listed d.hint = listed e.hint ∧
        listed d.helpUrl = listed e.helpUrl := by
  constructor
  · intro h
    have hsame : ∀ label p q, (label, p) ∈ d.particulars → (label, q) ∈ e.particulars →
        listed p = listed q := by
      intro label p q hp hq
      rw [← entry_entries d.particulars_apart hp, h, entry_entries e.particulars_apart hq]
    refine ⟨hsame "function: " _ _ ?_ ?_, hsame "argument: " _ _ ?_ ?_,
      hsame "received: " _ _ ?_ ?_, hsame "help: " _ _ ?_ ?_,
      hsame "note: see " _ _ ?_ ?_⟩ <;> simp [particulars]
  · rintro ⟨hfunction, hargument, hreceived, hhint, hhelpUrl⟩
    simp only [entries, particulars, List.flatMap_cons, List.flatMap_nil, line_eq, hfunction,
      hargument, hreceived, hhint, hhelpUrl]

/-! ## Renderings -/

/-- A diagnostic of one of the two severities, each of whose texts stands on one line. -/
structure Plain (d : Diagnostic String) : Prop where
  severity : d.severity = "error" ∨ d.severity = "warning"
  message : OneLine d.message
  particulars : ∀ p ∈ d.particulars, ∀ t ∈ p.2, OneLine t

namespace Plain

variable {d : Diagnostic String}

lemma severity_marks (h : d.Plain) : OneLine d.severity ∧ '[' ∉ d.severity.toList := by
  rcases h.severity with heq | heq
  · rw [heq]
    decide
  · rw [heq]
    decide

lemma headline (h : d.Plain) : OneLine d.headline :=
  .append (.append (.append (.append h.severity_marks.1 (by decide)) d.code.name_marks.1) (by decide))
    h.message

lemma entries (h : d.Plain) : ∀ l ∈ entries d.particulars, OneLine l := by
  have hlabels : ∀ p ∈ d.particulars, OneLine p.1 := by
    simp only [Diagnostic.particulars, List.forall_mem_cons]
    decide
  intro l hl
  obtain ⟨p, hp, hline⟩ := List.mem_flatMap.1 hl
  rw [line_eq, Option.mem_toList, Option.map_eq_some_iff] at hline
  obtain ⟨t, ht, rfl⟩ := hline
  have htext : OneLine t := h.particulars p hp t (Option.filter_eq_some_iff.1 ht).1
  exact .append (.append (by decide) (hlabels p hp)) htext

lemma lines (h : d.Plain) : ∀ l ∈ d.lines, OneLine l := by
  rw [lines_eq]
  exact List.forall_mem_cons.2 ⟨h.headline, h.entries⟩

end Plain

/-- **The lines of a rendering are the lines that it was made from.** -/
theorem textLines_render {d : Diagnostic String} (h : d.Plain) : textLines d.render = d.lines :=
  textLines_intercalate (List.cons_ne_nil _ _) h.lines

lemma render_eq_iff_lines {d e : Diagnostic String} (hd : d.Plain) (he : e.Plain) :
    d.render = e.render ↔
      d.headline = e.headline ∧ entries d.particulars = entries e.particulars := by
  have hlines : d.render = e.render ↔ d.lines = e.lines := by
    constructor
    · intro h
      rw [← textLines_render hd, h, textLines_render he]
    · intro h
      rw [render, h, render]
  rw [hlines, lines_eq, lines_eq, List.cons.injEq]

end Diagnostic

/-! ## Failures with a rendering -/

/-- A kind of failure that can be caught as one of the calendar's own. -/
def ErrorKind.IsCalendar (k : ErrorKind) : Prop := .calendar ∈ k :: k.wider

instance (k : ErrorKind) : Decidable k.IsCalendar := by
  unfold ErrorKind.IsCalendar; infer_instance

lemma CauseOf.kind_cases {ν τ : Type} (c : CauseOf ν τ) :
    c.kind = .range ∨ c.kind = .providerRequired ∨ c.kind = .providerMissing ∨ c.kind = .locale := by
  cases c <;> simp [kind]

lemma CauseOf.kind_isCalendar {ν τ : Type} (c : CauseOf ν τ) : c.kind.IsCalendar := by
  rcases c.kind_cases with h | h | h | h <;> rw [h] <;> decide

/-- A complaint that cannot be put into words is none of the calendar's own failures. -/
lemma WordingFault.not_isCalendar (w : WordingFault) : ¬w.kind.IsCalendar := by
  cases w with
  | tooManyDigits => decide
  | foreign kindName reason => simp [kind, ErrorKind.IsCalendar, ErrorKind.wider]

/-- **The failures of the calendar's own are those that are diagnosed**, and their message is the
rendering of the diagnostic. -/
theorem Fault.kind_isCalendar_iff {f : Fault} :
    f.kind.IsCalendar ↔ ∃ d, f.report = .diagnosed d ∧ f.message = d.render := by
  cases f with
  | cause c => exact iff_of_true c.kind_isCalendar ⟨_, rfl, rfl⟩
  | wording w =>
    refine iff_of_false w.not_isCalendar ?_
    rintro ⟨d, hd, -⟩
    cases hd
  | _ =>
    refine iff_of_false ?_ ?_
    · simp only [kind]
      decide
    · rintro ⟨d, hd, -⟩
      cases hd

/-! ## Nothing is lost -/

open Diagnostic (listed) in
/-- **A rendering loses nothing.**  Two diagnostics whose texts stand on one line each are rendered alike
exactly when they have the same severity, code and message and the same particulars, up to those that
are absent or empty.  Whatever carries a diagnostic has its rendering as its text, and the failures that
do are those of the calendar's own. -/
theorem rendering_loses_nothing :
    (∀ d e : Diagnostic String, d.Plain → e.Plain →
      (d.render = e.render ↔
        (d.severity = e.severity ∧ d.code = e.code ∧ d.message = e.message) ∧
          listed d.function = listed e.function ∧ listed d.argument = listed e.argument ∧
          listed d.received = listed e.received ∧ listed d.hint = listed e.hint ∧
          listed d.helpUrl = listed e.helpUrl)) ∧
    (∀ (r : Report) (d : Diagnostic String), r.diagnostic? = some d → r.text = d.render) ∧
    (∀ f : Fault, f.kind.IsCalendar ↔ ∃ d, f.report = .diagnosed d ∧ f.message = d.render) := by
  refine ⟨fun d e hd he => ?_, fun r d h => ?_, fun f => Fault.kind_isCalendar_iff⟩
  · rw [Diagnostic.render_eq_iff_lines hd he,
      Diagnostic.headline_eq_iff hd.severity_marks.2 he.severity_marks.2,
      Diagnostic.entries_particulars_eq_iff]
  · cases r with
    | plain t => cases h
    | diagnosed e =>
      cases h
      rfl

/-- A day out of range, with a name of a function that looks like the line of an argument. -/
def Diagnostic.disguised : Diagnostic String where
  code := .dayOutOfRange
  message := "no such day"
  function := some "  = argument: day"

/-- The same with that line. -/
def Diagnostic.undisguised : Diagnostic String where
  code := .dayOutOfRange
  message := "no such day"
  argument := some "day"
  hint := some ""

/-- A text that looks like a line of its own is told from that line, and an empty hint is like none. -/
theorem rendering_loses_nothing_disguised :
    (Diagnostic.disguised.Plain ∧ Diagnostic.undisguised.Plain ∧
        Diagnostic.disguised.render ≠ Diagnostic.undisguised.render) ∧
      Diagnostic.undisguised.render = { Diagnostic.undisguised with hint := none }.render ∧
      (Report.diagnosed .disguised).text = Diagnostic.disguised.render := by
  obtain ⟨hrender, htext, -⟩ := rendering_loses_nothing
  have hdisguised : Diagnostic.disguised.Plain := ⟨.inl rfl, by decide, by decide⟩
  have hundisguised : Diagnostic.undisguised.Plain := ⟨.inl rfl, by decide, by decide⟩
  have hhintless : { Diagnostic.undisguised with hint := none }.Plain :=
    ⟨.inl rfl, by decide, by decide⟩
  refine ⟨⟨hdisguised, hundisguised, fun h => ?_⟩, ?_, htext _ _ rfl⟩
  · have hfunction := ((hrender _ _ hdisguised hundisguised).1 h).2.1
    exact absurd hfunction (by decide)
  · exact (hrender _ _ hundisguised hhintless).2 (by decide)

end BusinessCalendar
