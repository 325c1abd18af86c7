import BusinessCalendar.Fault
import BusinessCalendar.Gregorian.Date

/-!
# Notices

What an operation has to say apart from its answer.  Notices are data: an operation that may
write some returns them, in order, beside its outcome (`Logged`), and whoever runs it decides
what becomes of them.
-/

namespace BusinessCalendar

/-- How much a notice matters. -/
inductive NoticeLevel where
  | debug
  | warning
deriving DecidableEq, Repr

/-- The part of the library that a notice comes from. -/
inductive NoticeSource where
  | fiscalYear
  | locale
deriving DecidableEq, Repr

/-- Something worth telling apart from the answer. -/
inductive Notice where
  /-- The start of a fiscal year was moved back to its first weekday. -/
  | alignedBack (start : Date) (firstWeekday : Weekday) (aligned : Date)
  /-- A locale was not known, and another one is used. -/
  | unknownLocale (code reason fallback : String)
  /-- A locale code had an unusable form, and another locale is used. -/
  | malformedLocale (code reason fallback : String)
  /-- A locale asks for a number of days in week 1 that no rule has; `minDays` is the number in
  words, if it can be put into words. -/
  | unusableMinDays (locale : String) (minDays : Option String) (rule : String)
deriving DecidableEq, Repr

namespace Notice

/-- Falling back matters to a caller, aligning does not. -/
def level : Notice → NoticeLevel
  | alignedBack .. => .debug
  | unknownLocale .. | malformedLocale .. | unusableMinDays .. => .warning

def source : Notice → NoticeSource
  | alignedBack .. => .fiscalYear
  | unknownLocale .. | malformedLocale .. | unusableMinDays .. => .locale

/-- The text of a notice.  One that cannot be put into words is not written down. -/
def message? : Notice → Option String
  | alignedBack start firstWeekday aligned =>
    some s!"Fiscal year start {start.iso} aligned back to {firstWeekday.name} {aligned.iso}"
  | unknownLocale code reason fallback =>
    some s!"Unknown locale '{code}': {reason}. Falling back to {fallback}"
  | malformedLocale code reason fallback =>
    some s!"Invalid locale format '{code}': {reason}. Falling back to {fallback}"
  | unusableMinDays locale minDays rule =>
    minDays.map fun days => s!"Locale '{locale}' has min_week_days={days}; using {rule}"

end Notice

/-- An outcome and the notices written on the way to it. -/
structure Logged (α : Type) where
  notices : List Notice
  outcome : Outcome α

namespace Logged

variable {α β : Type}

def silent (o : Outcome α) : Logged α := { notices := [], outcome := o }

/-- The notices of both steps; the second step is taken only after a success. -/
def andThen (x : Logged α) (f : α → Logged β) : Logged β :=
  match x.outcome with
  | .ok a => { notices := x.notices ++ (f a).notices, outcome := (f a).outcome }
  | .error e => { notices := x.notices, outcome := .error e }

end Logged

end BusinessCalendar
