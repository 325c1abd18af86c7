import BusinessCalendar.Decimal.Shortest
import BusinessCalendar.Value.Basic

/-!
# Values in words

* `Value.literal` — how a report quotes a thing back: texts and bytes in quotes, named constants with
  their kind, collections element by element.
* `Value.shown` — how a thing reads within a sentence: a text as it is, a named constant as what it
  stands for, all else as it is quoted.
* `WordedValue` — a value together with both, which a report can mention.

Not everything can be put into words: a number can have too many digits, and a thing that is quoted
in its own way can fail to do so.  What fails first, from left to right, is the failure.  Collections
may be nested to any depth.
-/

namespace BusinessCalendar

/-- Parts of a call, separated by commas. -/
def callLiteral (name : String) (parts : List String) : String :=
  name ++ "(" ++ ", ".intercalate parts ++ ")"

/-- Parts of a call, each with the name of its argument. -/
def namedCallLiteral (name : String) (fields parts : List String) : String :=
  callLiteral name (fields.zipWith (fun field part => field ++ "=" ++ part) parts)

namespace Clock

/-- The non-zero parts of a duration, as days, seconds and microseconds; days alone carry the sign. -/
def durationLiteral (microseconds : Int) : String :=
  let days := microseconds / microsecondsPerDay
  let rest := microseconds % microsecondsPerDay
  let part (label : String) (n : Int) : List String :=
    if n = 0 then [] else [label ++ "=" ++ toString n]
  let parts :=
    part "days" days ++ part "seconds" (rest / 1000000) ++ part "microseconds" (rest % 1000000)
  callLiteral "datetime.timedelta" (if parts.isEmpty then ["0"] else parts)

/-- The parts of a time of day; seconds and microseconds only as far as the last that is not 0. -/
def parts (c : Clock) : List String :=
  let seconds := c.microsecond / 1000000
  let fraction := c.microsecond % 1000000
  let second := seconds % 60
  [toString (seconds / 3600), toString (seconds / 60 % 60)] ++
    (if second = 0 ∧ fraction = 0 then [] else [toString second]) ++
    (if fraction = 0 then [] else [toString fraction]) ++
    match c.offset with
    | none => []
    | some offset =>
      if offset = 0 then ["tzinfo=datetime.timezone.utc"]
      else ["tzinfo=" ++ callLiteral "datetime.timezone" [durationLiteral offset]]

end Clock

/-- A date or a time of day as the call that makes it. -/
def Moment.literal (m : Moment) : String :=
  let date := [toString m.date.year, toString m.date.month, toString m.date.day]
  match m.clock with
  | none => callLiteral "datetime.date" date
  | some c => callLiteral "datetime.datetime" (date ++ c.parts)

def Weekday.literal (w : Weekday) : String := (Numeral.weekday w).literal

/-- A week convention as the call that makes it. -/
def WeekConvention.literal (c : WeekConvention) : String :=
  namedCallLiteral "WeekConvention" ["first_weekday", "rule"]
    [c.firstWeekday.literal, (Numeral.rule c.rule).literal]

/-- A weekend as the call that makes it. -/
def Weekend.literal (w : Weekend) : String :=
  let days := w.days.map Weekday.literal
  let set := if days.isEmpty then [] else ["\x7b" ++ ", ".intercalate days ++ "\x7d"]
  namedCallLiteral "WeekendDays" ["days"] [callLiteral "frozenset" set]

/-- A fiscal year as the call that makes it. -/
def FiscalYear.literal (y : FiscalYear) : String :=
  namedCallLiteral "Fiscal544QuarterProvider"
    ["fiscal_year_start", "first_weekday", "weeks", "nominal_start"]
    [(Moment.ofDate y.start).literal, y.firstWeekday.literal, toString y.weeks,
      (Moment.ofDate y.nominalStart).literal]

namespace TupleKind

def literal (kind : TupleKind) (items : List String) : String :=
  match kind, items with
  | plain, [item] => "(" ++ item ++ ",)"
  | plain, items => "(" ++ ", ".intercalate items ++ ")"
  | kind, items => namedCallLiteral kind.name kind.fields items

end TupleKind

/-- A text for a number, unless it has too many digits to be written out. -/
def Numeral.written (n : Numeral) (text : String) : Except WordingFault String :=
  if n.Writable then .ok text else .error .tooManyDigits

/-- A definition as a named constant that stands for a text. -/
def QuarterDefinition.literal (d : QuarterDefinition) : String :=
  Numeral.constantLiteral "QuarterDefinition" d.name (Text.quoted d.text)

def WeekendDefinition.literal (d : WeekendDefinition) : String :=
  Numeral.constantLiteral "CalendarWeekendDefinition" d.name (Text.quoted d.text)

namespace Value

/-- A value that is a text, quoted back. -/
def quotedText? : Value → Option String
  | text s => some (Text.quoted s)
  | quarterDefinition d => some d.literal
  | weekendDefinition d => some d.literal
  | _ => none

/-- A text that may be missing, quoted back. -/
def optionalText (s : Option String) : String := s.elim "None" Text.quoted

mutual

/-- How a value is quoted back, from left to right.  Things with no text of their own are shown by
their kind. -/
def literal : Value → Except WordingFault String
  | null => .ok "None"
  | bool b => .ok (if b then "True" else "False")
  | number n => n.written n.literal
  | float x => .ok x.literal
  | text s => .ok (Text.quoted s)
  | bytes bs => .ok (Text.quotedBytes bs)
  | list vs => do return "[" ++ ", ".intercalate (← literals vs) ++ "]"
  | tuple kind vs => do return kind.literal (← literals vs)
  | dict keys vs => do
    let entries :=
      keys.zipWith (fun key item => Text.quoted key ++ ": " ++ item) (← literals vs)
    return "\x7b" ++ ", ".intercalate entries ++ "\x7d"
  | object _ quoted => quoted
  | moment m => .ok m.literal
  | quarterDefinition d => .ok d.literal
  | weekendDefinition d => .ok d.literal
  | anchor _ month day => do
    return namedCallLiteral "QuarterAnchor" ["month", "day"]
      [← month.written month.literal, ← day.written day.literal]
  | convention c => .ok c.literal
  | quarter year index start stop => do
    return namedCallLiteral "Quarter" ["year", "quarter", "start", "end"]
      [← literal year, ← literal index, ← literal start, ← literal stop]
  | weekendDays w => .ok w.literal
  | fiscalYear y => .ok y.literal
  | quarterProvider p _ => p.quoted
  | weekendProvider p _ => p.quoted
  | diagnostic ⟨code, message, hint, helpUrl, function, argument, received, severity⟩ => do
    return namedCallLiteral "Diagnostic"
      ["code", "message", "hint", "help_url", "function_name", "argument_name", "received_value",
        "severity"]
      [Numeral.constantLiteral "DiagnosticCode" code.name (toString code.number),
        Text.quoted message, optionalText hint, optionalText helpUrl, ← optionLiteral function,
        ← optionLiteral argument, ← optionLiteral received, Text.quoted severity]
  | v => .ok ("<" ++ v.kindName ++ ">")

def literals : List Value → Except WordingFault (List String)
  | [] => .ok []
  | v :: vs => do return (← literal v) :: (← literals vs)

/-- A thing that may be missing, quoted back. -/
def optionLiteral : Option Value → Except WordingFault String
  | none => .ok "None"
  | some v => literal v

end

/-- How a value reads within a sentence. -/
def shown (v : Value) : Except WordingFault String :=
  match v with
  | number n => n.written n.text
  | text s => .ok s
  | moment m => .ok (m.text " ")
  | quarterDefinition d => .ok d.text
  | weekendDefinition d => .ok d.text
  | locale l => .ok l.name
  | diagnostic d => .ok d.message
  | v => v.literal

end Value

/-- A value that has been put into words. -/
structure WordedValue where
  value : Value
  shown : String
  literal : String

namespace WordedValue

/-- A text in words. -/
def ofText (s : String) : WordedValue :=
  { value := .text s, shown := s, literal := Text.quoted s }

/-- The digits of a number, filled with zeros to a width; a moment, which has no digits to fill,
reads the request for them as the form that it is to have. -/
def padded (width : Nat) (w : WordedValue) : String :=
  match w.value with
  | .moment _ => "0" ++ toString width ++ "d"
  | v =>
    match v.integer? with
    | some n => Text.zeroPadded width n
    | none => w.shown

instance : Particular WordedValue where
  text := shown
  literal := literal
  ofText := ofText
  listed w := w.value.truthy

instance : Quantity WordedValue where
  text := shown
  literal := literal
  integer? w := w.value.integer?
  padded := padded

end WordedValue

namespace Value

def worded (v : Value) : Except WordingFault WordedValue := do
  return { value := v, shown := ← v.shown, literal := ← v.literal }

end Value

end BusinessCalendar
