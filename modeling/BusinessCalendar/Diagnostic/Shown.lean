import BusinessCalendar.Numeral
import BusinessCalendar.Text.Digits
import BusinessCalendar.Text.Quoted

/-!
# Things that a report mentions

A report names things in its sentence and lists some of them below it.  What it can mention is a
matter of three classes, so that a report on checked numbers and a report on whatever a caller
passed are worded by the same rules.

* `Shown` — how a thing reads within a sentence, and how it is quoted back.
* `Particular` — a thing that a report can list; every text can stand for one.
* `Quantity` — a number, or what was given in place of one.
-/

namespace BusinessCalendar

/-- A thing that a report can mention. -/
class Shown (α : Type) where
  /-- Within a sentence. -/
  text : α → String
  /-- Quoted back. -/
  literal : α → String

/-- A thing that a report can list below its sentence. -/
class Particular (τ : Type) extends Shown τ where
  /-- A text in place of such a thing. -/
  ofText : String → τ
  /-- Whether there is anything to list. -/
  listed : τ → Bool

/-- A number, or what was given in place of one. -/
class Quantity (ν : Type) extends Shown ν where
  /-- The integer that it is equal to. -/
  integer? : ν → Option Int
  /-- Its digits filled with zeros to a width. -/
  padded : Nat → ν → String

/-- A text reads as it is; only the empty one is not listed. -/
instance : Particular String where
  text s := s
  literal := Text.quoted
  ofText s := s
  listed s := s != ""

instance : Quantity Numeral where
  text := Numeral.text
  literal := Numeral.literal
  integer? n := some n.value
  padded width n := Text.zeroPadded width n.value

/-- A thing quoted back, in place of a particular. -/
def Particular.quoting {α τ : Type} [Shown α] [Particular τ] (a : α) : τ :=
  Particular.ofText (Shown.literal a)

/-- A year and a month, as `2024-02`. -/
def monthText {ν : Type} [Quantity ν] (year month : ν) : String :=
  Quantity.padded 4 year ++ "-" ++ Quantity.padded 2 month

end BusinessCalendar
