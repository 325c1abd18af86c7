import BusinessCalendar.Decimal.Point

/-!
# Binary floating point numbers

A finite number is `m · 2^q` with `m < 2^53` and `-1074 ≤ q ≤ 971`, kept in the one form where
`m ≥ 2^52` or `q = -1074`.  What is not a number carries a tag, which tells it apart from others of
its kind.

* `Binary64.ofDecimal` — the number closest to `digits · 10^exponent`; of two equally close ones the
  one with even `m`.
* `Binary64.point` — where a number stands on the line of all numbers.
* `Binary64.ofText?` — reads a decimal literal, `nan` or `inf`.
-/

namespace BusinessCalendar

/-- A binary floating point number of 64 bits. -/
inductive Binary64 where
  | nan (tag : Nat)
  | infinity (negative : Bool)
  | finite (negative : Bool) (significand : Nat) (exponent : Int)
deriving DecidableEq, Repr

namespace Binary64

/-- A quotient rounded to the nearest integer, a half to the even one. -/
def roundHalfEven (num den : Nat) : Nat :=
  let q := num / den
  let twice := 2 * (num % den)
  if twice < den ∨ (twice = den ∧ q % 2 = 0) then q else q + 1

/-- `num / den` in units of `2^q`, as numerator and denominator. -/
def inUnits (num den : Nat) (q : Int) : Nat × Nat :=
  if 0 ≤ q then (num, den * Nat.pow 2 q.toNat) else (num * Nat.pow 2 (-q).toNat, den)

/-- The exponent of the number closest to a positive quotient. -/
def exponentOf (num den : Nat) : Int :=
  let q : Int := (Nat.log2 num : Int) - Nat.log2 den - 53
  let (a, b) := inUnits num den q
  max (if Nat.pow 2 53 * b ≤ a then q + 1 else q) (-1074)

/-- The number closest to a quotient. -/
def ofQuotient (negative : Bool) (num den : Nat) : Binary64 :=
  if num = 0 then .finite negative 0 (-1074)
  else
    let q := exponentOf num den
    let (a, b) := inUnits num den q
    let m := roundHalfEven a b
    let (m, q) := if m = Nat.pow 2 53 then (Nat.pow 2 52, q + 1) else (m, q)
    if q > 971 then .infinity negative else .finite negative m q

/-- The number closest to `digits · 10^exponent`. -/
def ofDecimal (negative : Bool) (digits : Nat) (exponent : Int) : Binary64 :=
  if 0 ≤ exponent then ofQuotient negative (digits * Nat.pow 10 exponent.toNat) 1
  else ofQuotient negative digits (Nat.pow 10 (-exponent).toNat)

/-- Zero of either sign is the only number that counts as nothing. -/
def isZero : Binary64 → Bool
  | .finite _ 0 _ => true
  | _ => false

/-- Where a number stands on the line; what is not a number stands nowhere. -/
def point : Binary64 → Point
  | .nan _ => .nowhere
  | .infinity negative => if negative then .below else .above
  | .finite negative m q => .finite (if negative then -m else m) q

/-! ## Reading -/

/-- The number that decimal digits stand for. -/
def digitsValue (cs : List Char) : Nat :=
  cs.foldl (fun n c => 10 * n + (c.toNat - '0'.toNat)) 0

/-- An exponent: a sign, if any, and digits. -/
def readExponent? : List Char → Option Int
  | '-' :: cs => if cs.all Char.isDigit && !cs.isEmpty then some (-(digitsValue cs : Int)) else none
  | '+' :: cs => if cs.all Char.isDigit && !cs.isEmpty then some (digitsValue cs) else none
  | cs => if cs.all Char.isDigit && !cs.isEmpty then some (digitsValue cs) else none

/-- Digits, a point and more digits, and an exponent; at least one digit has to be there. -/
def readUnsigned? (negative : Bool) (cs : List Char) : Option Binary64 :=
  let whole := cs.takeWhile Char.isDigit
  let rest := cs.dropWhile Char.isDigit
  let (fraction, rest) :=
    match rest with
    | '.' :: r => (r.takeWhile Char.isDigit, r.dropWhile Char.isDigit)
    | r => ([], r)
  let exponent? :=
    match rest with
    | [] => some 0
    | c :: r => if c = 'e' then readExponent? r else none
  if whole.isEmpty && fraction.isEmpty then none
  else exponent?.map fun e =>
    ofDecimal negative (digitsValue (whole ++ fraction)) (e - fraction.length)

/-- A decimal literal, `nan`, `inf` or `infinity`, with or without a sign, in letters of either case. -/
def ofText? (s : String) : Option Binary64 :=
  let (negative, cs) :=
    match s.toList.map Char.toLower with
    | '-' :: cs => (true, cs)
    | '+' :: cs => (false, cs)
    | cs => (false, cs)
  if cs = "nan".toList then some (.nan 0)
  else if cs = "inf".toList ∨ cs = "infinity".toList then some (.infinity negative)
  else readUnsigned? negative cs

end Binary64

end BusinessCalendar
