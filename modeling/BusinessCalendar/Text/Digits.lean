/-!
# Digits of a fixed width

* `zeroPadded` — a decimal integer filled with zeros to a width that the sign counts towards.
* `hexPadded` — lower-case hexadecimal digits, filled with zeros.
-/

namespace BusinessCalendar.Text

/-- `width` copies of zero at most: as many as the text falls short of the width. -/
def zeroFill (width : Nat) (digits : String) : String :=
  String.ofList (List.replicate (width - digits.length) '0') ++ digits

/-- Decimal digits filled with zeros to a width; a minus sign stands first and counts. -/
def zeroPadded (width : Nat) (n : Int) : String :=
  if n < 0 then "-" ++ zeroFill (width - 1) (toString n.natAbs)
  else zeroFill width (toString n.natAbs)

/-- Lower-case hexadecimal digits filled with zeros to a width. -/
def hexPadded (width n : Nat) : String :=
  zeroFill width (String.ofList (Nat.toDigits 16 n))

end BusinessCalendar.Text
