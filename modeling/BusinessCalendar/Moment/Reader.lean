import BusinessCalendar.Moment.Basic

/-!
# Reading dates and times

Reads what `Moment.iso` writes: `2024-02-29`, and with a time of day
`2024-02-29T23:59:59.999999+05:30`, where the fraction has one to six digits and may be missing,
and so may the offset.
-/

namespace BusinessCalendar

namespace Text

/-- The number that a run of decimal digits stands for; `none` for anything else. -/
def digits? (cs : List Char) : Option Nat :=
  if cs.all Char.isDigit && !cs.isEmpty then
    some (cs.foldl (fun n c => 10 * n + (c.toNat - '0'.toNat)) 0)
  else none

/-- A number of exactly `width` digits, and what follows it. -/
def fixedDigits? (width : Nat) (cs : List Char) : Option (Nat × List Char) :=
  if cs.length < width then none
  else (digits? (cs.take width)).map fun n => (n, cs.drop width)

/-- A number of exactly `width` digits after a separator, and what follows it. -/
def separated? (separator : Char) (width : Nat) : List Char → Option (Nat × List Char)
  | c :: cs => if c = separator then fixedDigits? width cs else none
  | [] => none

/-- A fraction of one to six digits after a point, in millionths; nothing stands for zero. -/
def fraction? : List Char → Option (Nat × List Char)
  | '.' :: cs =>
    let ds := cs.takeWhile Char.isDigit
    if ds.length ≤ 6 then
      (digits? ds).map fun n => (n * Nat.pow 10 (6 - ds.length), cs.dropWhile Char.isDigit)
    else none
  | cs => some (0, cs)

end Text

/-- The date that a text begins with, and what follows it. -/
def Date.read? (cs : List Char) : Option (Date × List Char) := do
  let (year, cs) ← Text.fixedDigits? 4 cs
  let (month, cs) ← Text.separated? '-' 2 cs
  let (day, cs) ← Text.separated? '-' 2 cs
  let d ← Date.of? { year, month, day }
  return (d, cs)

namespace Clock

/-- Microseconds of a time of day or of an offset. -/
def ofParts (hours minutes seconds fraction : Nat) : Nat :=
  ((hours * 60 + minutes) * 60 + seconds) * 1000000 + fraction

/-- An offset, down to the end of the text. -/
def readOffset? (cs : List Char) : Option Int := do
  let (hours, cs) ← Text.fixedDigits? 2 cs
  let (minutes, cs) ← Text.separated? ':' 2 cs
  if cs.isEmpty then return ofParts hours minutes 0 0
  let (seconds, cs) ← Text.separated? ':' 2 cs
  let (fraction, cs) ← Text.fraction? cs
  if cs.isEmpty then return ofParts hours minutes seconds fraction else none

/-- A time of day with or without an offset, down to the end of the text. -/
def read? (cs : List Char) : Option Clock := do
  let (hours, cs) ← Text.fixedDigits? 2 cs
  let (minutes, cs) ← Text.separated? ':' 2 cs
  let (seconds, cs) ← Text.separated? ':' 2 cs
  let (fraction, cs) ← Text.fraction? cs
  let microsecond := ofParts hours minutes seconds fraction
  match cs with
  | [] => return { microsecond, offset := none }
  | ['Z'] => return { microsecond, offset := some 0 }
  | '+' :: cs => return { microsecond, offset := some (← readOffset? cs) }
  | '-' :: cs => return { microsecond, offset := some (-(← readOffset? cs)) }
  | _ => none

end Clock

namespace Moment

/-- A date, and after it nothing or a time of day. -/
def ofIso? (s : String) : Option Moment := do
  let (date, cs) ← Date.read? s.toList
  match cs with
  | [] => return { date, clock := none }
  | _ :: cs => return { date, clock := some (← Clock.read? cs) }

end Moment

end BusinessCalendar
