import BusinessCalendar.Decimal.Binary64
import BusinessCalendar.FiscalYear.Calendar
import BusinessCalendar.Locale.Basic
import BusinessCalendar.Quarter.Resolution
import BusinessCalendar.Week.Numbering
import BusinessCalendar.Weekend

/-!
# Values of any kind

An argument of a call can be anything, and a call has to say what is wrong with it.  `Value` is
the type of such arguments; everything behind the calls works with the types of its own domain.

* `QuarterMethods`, `WeekendMethods` — providers: methods that are arbitrary functions.  Of the four
  methods of a quarter provider a thing may lack some.
* `TupleKind` — tuples, and the two kinds of them whose items have names.
* `Value.kindName` — the name of a value's type in a complaint.
* `Value.truthy` — how a provider's answer is reduced to a yes or a no.
* `Value.point?`, `Value.integer?` — the number that a value is, if it is one.
* `Value.unhashable?` — what keeps a value from being looked up.
-/

namespace BusinessCalendar

/-- A thing with some of the four methods of a quarter provider; a method may answer with any value
or fail.  How the thing is quoted back is its own affair, the same each time, and may fail as well. -/
structure QuarterMethods (V : Type) where
  kindName : String
  quoted : Except WordingFault String := .ok ("<" ++ kindName ++ ">")
  quarter? : Option (Moment → Except Fault V)
  quarterStart? : Option (Moment → Except Fault V)
  quarterStop? : Option (Moment → Except Fault V)
  startMonth? : Option (Numeral → Except Fault V)

/-- A thing with the one method of a weekend provider. -/
structure WeekendMethods (V : Type) where
  kindName : String
  quoted : Except WordingFault String := .ok ("<" ++ kindName ++ ">")
  isWeekend : Weekday → V

/-- The kinds of tuples. -/
inductive TupleKind where
  /-- Items by position alone. -/
  | plain
  /-- A year, a month and a day. -/
  | calendarDate
  /-- A year and a week. -/
  | isoWeek
deriving DecidableEq, Repr

namespace TupleKind

/-- The name of a kind in a complaint. -/
def name : TupleKind → String
  | plain => "tuple"
  | calendarDate => "CalendarDate"
  | isoWeek => "IsoWeek"

/-- The names of the items, by position. -/
def fields : TupleKind → List String
  | plain => []
  | calendarDate => ["year", "month", "day"]
  | isoWeek => ["year", "week"]

end TupleKind

/-- An argument or an answer of any kind.  An `identity` tells apart things that are equal to
themselves alone. -/
inductive Value where
  | null
  | bool (b : Bool)
  | number (n : Numeral)
  | float (x : Binary64)
  | text (s : String)
  | bytes (bs : List UInt8)
  | list (vs : List Value)
  | tuple (kind : TupleKind) (vs : List Value)
  /-- A table: its keys, and a value for each. -/
  | dict (keys : List String) (vs : List Value)
  /-- A thing with nothing to it but the way it is quoted back. -/
  | object (identity : Nat) (quoted : Except WordingFault String)
  | moment (m : Moment)
  | quarterDefinition (d : QuarterDefinition)
  | weekendDefinition (d : WeekendDefinition)
  /-- An anchor, with its month and its day as they were written. -/
  | anchor (a : Anchor) (month day : Numeral)
  | convention (c : WeekConvention)
  /-- A quarter as it was written.  Its year and its bounds can be anything. -/
  | quarter (year index start stop : Value)
  | weekendDays (w : Weekend)
  | fiscalYear (y : FiscalYear)
  | quarterProvider (p : QuarterMethods Value) (identity : Nat)
  | weekendProvider (p : WeekendMethods Value) (identity : Nat)
  | locale (l : Locale Value)
  | diagnostic (d : Diagnostic Value)

namespace Value

instance : Inhabited Value := ⟨null⟩

/-! ## Values of the domain types -/

def int (n : Int) : Value := number (.plain n)

/-- A date without a time of day. -/
def date (d : Date) : Value := moment (.ofDate d)

def weekday (w : Weekday) : Value := number (.weekday w)

def ofAnchor (a : Anchor) : Value := anchor a (.plain a.month) (.plain a.day)

def ofYearMonthDay (d : YearMonthDay) : Value :=
  tuple .calendarDate [int d.year, int d.month, int d.day]

def ofIsoWeek (w : IsoWeek) : Value := tuple .isoWeek [int w.year, int w.week]

def ofQuarter (q : Quarter) : Value := quarter (int q.year) (int q.index) (date q.start) (date q.stop)

/-! ## What a value is -/

/-- The name of the type of a number. -/
def numeralKindName : Numeral → String
  | .plain _ => "int"
  | .weekday _ => "Day"
  | .ordinal _ => "WeekOfMonthOrdinal"
  | .rule _ => "WeekRule"

def kindName : Value → String
  | null => "NoneType"
  | bool _ => "bool"
  | number n => numeralKindName n
  | float _ => "float"
  | text _ => "str"
  | bytes _ => "bytes"
  | list _ => "list"
  | tuple kind _ => kind.name
  | dict .. => "dict"
  | object .. => "object"
  | moment m => if m.clock.isSome then "datetime" else "date"
  | quarterDefinition _ => "QuarterDefinition"
  | weekendDefinition _ => "CalendarWeekendDefinition"
  | anchor .. => "QuarterAnchor"
  | convention _ => "WeekConvention"
  | quarter .. => "Quarter"
  | weekendDays _ => "WeekendDays"
  | fiscalYear _ => "Fiscal544QuarterProvider"
  | quarterProvider p _ => p.kindName
  | weekendProvider p _ => p.kindName
  | locale _ => "Locale"
  | diagnostic _ => "Diagnostic"

/-- The name of a value's type where its place among types matters: it is set against another type, or
stands where no such thing can. -/
def qualifiedKindName (v : Value) : String :=
  match v with
  | moment _ => "datetime." ++ v.kindName
  | v => v.kindName

/-- Nothing, false, zero and what is empty count as no; everything else counts as yes. -/
def truthy : Value → Bool
  | null => false
  | bool b => b
  | number n => n.value != 0
  | float x => !x.isZero
  | text s => !s.isEmpty
  | bytes bs => !bs.isEmpty
  | list vs => !vs.isEmpty
  | tuple _ vs => !vs.isEmpty
  | dict keys _ => !keys.isEmpty
  | _ => true

/-- The text of a value that is a text; the definitions that texts select are texts as well. -/
def text? : Value → Option String
  | text s => some s
  | quarterDefinition d => some d.text
  | weekendDefinition d => some d.text
  | _ => none

/-- Where a value that is a number stands on the line of numbers; a yes counts as one and a no as
zero. -/
def point? : Value → Option Point
  | bool b => some (.ofInt (if b then 1 else 0))
  | number n => some (.ofInt n.value)
  | float x => some x.point
  | _ => none

/-- The integer that a value is equal to. -/
def integer? (v : Value) : Option Int := v.point?.bind Point.integer?

/-- The elements of a collection, of a table its keys; a text and a run of bytes do not count as
one. -/
def elements? : Value → Option (List Value)
  | list vs => some vs
  | tuple _ vs => some vs
  | dict keys _ => some (keys.map text)
  | _ => none

/-- An item of a tuple, by its name. -/
def item? (kind : TupleKind) (vs : List Value) (name : String) : Option Value :=
  ((kind.fields.zip vs).find? fun e => e.1 == name).map (·.2)

mutual

/-- The kind of the first thing in a value, or the value itself, that cannot be looked up. -/
def unhashable? : Value → Option String
  | list _ => some "list"
  | dict .. => some "dict"
  | tuple _ vs => unhashableItem? vs
  | quarter year index start stop =>
    unhashable? year <|> unhashable? index <|> unhashable? start <|> unhashable? stop
  | _ => none

/-- The same for the items of a tuple. -/
def unhashableItem? : List Value → Option String
  | [] => none
  | v :: vs => unhashable? v <|> unhashableItem? vs

end

end Value

end BusinessCalendar
