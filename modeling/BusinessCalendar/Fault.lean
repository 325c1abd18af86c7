import BusinessCalendar.Diagnostic.Cause

/-!
# Failures of a call

Calendar arithmetic fails for a `Cause`.  A call with arguments of any kind can fail for other
reasons as well: a thing of the wrong type, a reversed period, no locale data.  `Fault` collects
them all; `Fault.kind` says what a caller may catch it as and `Fault.report` what it carries.

The report of a cause is worded before anything is raised.  Where a number in it has too many digits
to be written out, that is the failure, and no code is reported: `Cause.fault`.
-/

namespace BusinessCalendar

/-- What an error may be caught as: the library's own kinds and the general kinds they refine. -/
inductive ErrorKind where
  | calendar
  | range
  | providerRequired
  | providerMissing
  | locale
  | localeDataUnavailable
  | type
  | value
  | overflow
  | part
  | lookup
  | dependency
  | unknownLocale
  /-- A kind of error that the library does not know. -/
  | foreign (name : String)
deriving DecidableEq, Repr

/-- The wider kinds that a kind refines, nearest first. -/
def ErrorKind.wider : ErrorKind → List ErrorKind
  | .range => [.calendar, .value]
  | .providerRequired => [.calendar]
  | .providerMissing => [.calendar, .type]
  | .locale => [.calendar, .lookup]
  | .localeDataUnavailable => [.dependency]
  | _ => []

/-- What an error carries: a sentence, or a diagnostic. -/
inductive Report where
  | plain (text : String)
  | diagnosed (d : Diagnostic String)
deriving DecidableEq, Repr

namespace Report

def text : Report → String
  | plain text => text
  | diagnosed d => d.render

/-- The diagnostic of an error, if it has one. -/
def diagnostic? : Report → Option (Diagnostic String)
  | plain _ => none
  | diagnosed d => some d

end Report

/-- What keeps a thing from being put into words. -/
inductive WordingFault where
  /-- A number has too many digits to be written out. -/
  | tooManyDigits
  /-- A thing that is quoted back in its own way fails to be, with an error of its own. -/
  | foreign (kindName reason : String)
deriving DecidableEq, Repr

namespace WordingFault

def kind : WordingFault → ErrorKind
  | tooManyDigits => .value
  | foreign kindName _ => .foreign kindName

def text : WordingFault → String
  | tooManyDigits =>
    s!"Exceeds the limit ({Numeral.maxDigits} digits) for integer string conversion; " ++
      "use sys.set_int_max_str_digits() to increase the limit"
  | foreign _ reason => reason

end WordingFault

/-- Why a call has no answer. -/
inductive Fault where
  /-- Calendar arithmetic has no answer. -/
  | cause (c : Cause)
  /-- An argument is not of the expected type. -/
  | wrongType (argument expected received : String)
  /-- The thing given as a provider lacks a method of the protocol. -/
  | notAProvider (protocol received : String)
  /-- A provider returned something that is not a date. -/
  | notADate (method received : String)
  /-- A thing that cannot be looked up in a cache. -/
  | unhashable (received : String)
  /-- Two things that have no order. -/
  | unordered (reason : String)
  /-- A quarter whose last day, as written, comes before its first. -/
  | reversedQuarter (stop start : String)
  /-- A calendar date that does not exist: its year, its month or its day is at fault. -/
  | noSuchDate (year month : Int)
  /-- A thing in place of an integer that nothing but an integer can stand for. -/
  | notAnIndex (received : String)
  /-- An integer that a machine word does not hold. -/
  | tooLarge (received : Int)
  /-- A text or a fraction in place of a number whose digits are to be filled up. -/
  | notDecimal (received : String)
  /-- Some other thing in place of such a number. -/
  | notFormattable (received : String)
  /-- A thing that lacks what is asked of it. -/
  | missingPart (received part : String)
  /-- A value that no member of an enumeration has. -/
  | notAMember (literal enumeration : String)
  /-- A feature that needs locale data where none is installed. -/
  | localeDataUnavailable (feature : String)
  /-- A locale identifier that the locale data does not know. -/
  | unknownLocale (reason : String)
  /-- A locale identifier of a form that the locale data rejects. -/
  | malformedLocale (reason : String)
  /-- A complaint that cannot be put into words. -/
  | wording (w : WordingFault)
deriving DecidableEq, Repr

/-- The kind under which a cause is raised. -/
def CauseOf.kind {ν τ : Type} (c : CauseOf ν τ) : ErrorKind :=
  match c with
  | .providerRequired .. => .providerRequired
  | .providerMissing .. => .providerMissing
  | .localeUnknown .. => .locale
  | _ => .range

namespace Fault

/-- The kind under which a failure is raised. -/
def kind : Fault → ErrorKind
  | cause c => c.kind
  | wrongType .. | notAProvider .. | notADate .. | unhashable .. | unordered .. | notAnIndex ..
  | notFormattable .. => .type
  | reversedQuarter .. | noSuchDate .. | notDecimal .. | notAMember .. | malformedLocale .. => .value
  | tooLarge .. => .overflow
  | missingPart .. => .part
  | localeDataUnavailable .. => .localeDataUnavailable
  | unknownLocale .. => .unknownLocale
  | wording w => w.kind

def report : Fault → Report
  | cause c => .diagnosed c.diagnostic
  | wrongType argument expected received =>
    .plain s!"{argument} must be {expected}, got {received}"
  | notAProvider protocol received =>
    .plain s!"provider must implement {protocol}, got {received}"
  | notADate method received => .plain s!"Provider {method}() must return date, got {received}"
  | unhashable received => .plain s!"unhashable type: '{received}'"
  | unordered reason => .plain reason
  | reversedQuarter stop start => .plain s!"Quarter.end ({stop}) must be >= start ({start})"
  | noSuchDate year month =>
    .plain <|
      if year < 1 ∨ 9999 < year then s!"year {year} is out of range"
      else if month < 1 ∨ 12 < month then "month must be in 1..12"
      else "day is out of range for month"
  | notAnIndex received => .plain s!"'{received}' object cannot be interpreted as an integer"
  | tooLarge received =>
    .plain <|
      if received < -Int.pow 2 63 ∨ Int.pow 2 63 ≤ received then "Python int too large to convert to C long"
      else if 0 < received then "signed integer is greater than maximum"
      else "signed integer is less than minimum"
  | notDecimal received => .plain s!"Unknown format code 'd' for object of type '{received}'"
  | notFormattable received =>
    .plain s!"unsupported format string passed to {received}.__format__"
  | missingPart received part =>
    .plain s!"'{received}' object has no attribute '{part}'"
  | notAMember literal enumeration => .plain s!"{literal} is not a valid {enumeration}"
  | localeDataUnavailable feature =>
    .plain (feature ++ " requires Babel for CLDR locale data. " ++
      "Install with: pip install periodengine[babel]")
  | unknownLocale reason => .plain reason
  | malformedLocale reason => .plain reason
  | wording w => .plain w.text

def message (f : Fault) : String := f.report.text

/-- The code of a failure that is diagnosed. -/
def code? (f : Fault) : Option DiagnosticCode :=
  f.report.diagnostic?.map (·.code)

end Fault

/-- The outcome of a call. -/
abbrev Outcome (α : Type) := Except Fault α

/-- What a cause is raised as: its report comes first, and a number that cannot be put into words
is the failure in its place. -/
def Cause.fault (c : Cause) : Fault := if c.Writable then .cause c else .wording .tooManyDigits

def raise {α : Type} (c : Cause) : Outcome α := .error c.fault

/-- A computation of calendar arithmetic as a call. -/
def liftCause {α : Type} (x : Except Cause α) : Outcome α := x.mapError Cause.fault

instance : MonadLift (Except Cause) (Except Fault) := ⟨liftCause⟩

instance : MonadLift (Except WordingFault) (Except Fault) := ⟨Except.mapError .wording⟩

end BusinessCalendar
