import BusinessCalendar.Decimal.Binary64

/-!
# The shortest decimal that reads back

Of the decimals that a binary number is the closest one to, `Binary64.shortest` takes one with the
fewest digits, and of those the closest.  `Binary64.literal` lays its digits out.
-/

namespace BusinessCalendar

namespace Binary64

/-- Whether `a / b ≤ c / d`, strictly if so wanted. -/
def quotientLe (strict : Bool) (a b c d : Nat) : Bool :=
  if strict then a * d < c * b else a * d ≤ c * b

/-- A number times a power of ten, as numerator and denominator. -/
def decimalQuotient (n : Nat) (exponent : Int) : Nat × Nat :=
  if 0 ≤ exponent then (n * Nat.pow 10 exponent.toNat, 1)
  else (n, Nat.pow 10 (-exponent).toNat)

/-- A number times a power of two, as numerator and denominator. -/
def binaryQuotient (n : Nat) (exponent : Int) : Nat × Nat :=
  if 0 ≤ exponent then (n * Nat.pow 2 exponent.toNat, 1)
  else (n, Nat.pow 2 (-exponent).toNat)

/-- Whether `d · 10^g` rounds to `m · 2^q`: it lies between the midpoints to the neighbours, which
themselves round to an even `m`.  Below a power of two the neighbour is twice as close. -/
def roundsTo (m : Nat) (q : Int) (d : Nat) (g : Int) : Bool :=
  let below := if m = Nat.pow 2 52 ∧ q > -1074 then 1 else 2
  let (a, b) := binaryQuotient (4 * m - below) (q - 2)
  let (c, e) := binaryQuotient (4 * m + 2) (q - 2)
  let (x, y) := decimalQuotient d g
  quotientLe (m % 2 = 1) a b x y && quotientLe (m % 2 = 1) x y c e

/-- The exponent of the leading decimal digit of a positive quotient. -/
def leadingExponent (num den : Nat) : Int :=
  let e : Int := ((toString num).length : Int) - (toString den).length
  let (x, y) := decimalQuotient 1 e
  if quotientLe false x y num den then e else e - 1

/-- The best decimal on the grid `10^g`, if one of the two next to the number rounds to it. -/
def onGrid? (m : Nat) (q g : Int) : Option Nat :=
  let (num, den) := binaryQuotient m q
  let (a, b) :=
    if 0 ≤ g then (num, den * Nat.pow 10 g.toNat) else (num * Nat.pow 10 (-g).toNat, den)
  let d := a / b
  let nearest := roundHalfEven a b
  let other := if nearest = d then d + 1 else d
  if roundsTo m q nearest g then some nearest
  else if roundsTo m q other g then some other
  else none

/-- The digits and the exponent of the last one, on the coarsest grid that has a hit.  Seventeen
digits always suffice. -/
def shortest (m : Nat) (q : Int) : Nat × Int :=
  let (num, den) := binaryQuotient m q
  let lead := leadingExponent num den
  let grids : List Int := (List.range 17).map fun (n : Nat) => lead - (n : Int)
  match grids.findSome? fun g => (onGrid? m q g).map fun d => (d, g) with
  | some best => best
  | none => (m, q)

def stripZeros (digits : List Char) : List Char :=
  (digits.reverse.dropWhile (· == '0')).reverse

/-- The digits of a positive number laid out: positional from 0.0001 up to 10^16, with at least one
digit after the point; otherwise with an exponent of at least two digits. -/
def layOut (digits : List Char) (lead : Int) : List Char :=
  if -4 ≤ lead ∧ lead < 0 then
    "0.".toList ++ List.replicate (-lead - 1).toNat '0' ++ digits
  else if 0 ≤ lead ∧ lead < 16 then
    let whole := lead.toNat + 1
    let fraction := digits.drop whole
    digits.take whole ++ List.replicate (whole - digits.length) '0' ++ ['.'] ++
      (if fraction.isEmpty then ['0'] else fraction)
  else
    let size := toString lead.natAbs
    let exponent := if size.length < 2 then "0" ++ size else size
    let fraction := digits.drop 1
    digits.take 1 ++ (if fraction.isEmpty then [] else '.' :: fraction) ++
      (if lead < 0 then "e-" else "e+").toList ++ exponent.toList

/-- A binary number as a decimal literal. -/
def literal : Binary64 → String
  | .nan _ => "nan"
  | .infinity negative => if negative then "-inf" else "inf"
  | .finite negative m q =>
    let sign := if negative then "-" else ""
    if m = 0 then sign ++ "0.0"
    else
      let (d, g) := shortest m q
      let digits := (toString d).toList
      sign ++ String.ofList (layOut (stripZeros digits) (g + digits.length - 1))

end Binary64

end BusinessCalendar
