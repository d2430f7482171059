import LedStudio.Number.Double

/-!
# The shortest decimal text

A double is written with the fewest digits that read back as the same double, and of those texts
with the one nearest to it. On the grid of `n` digits only the two neighbours of a value can be
nearest, so the search tries both of them for one digit, for two, and so on; seventeen digits
always suffice.
-/

namespace LedStudio

/-- A positive decimal number: `digits` times ten to the power `exponent`. -/
structure Decimal where
  digits : Nat
  exponent : Int
  deriving DecidableEq, Repr

/-- The power of ten, for negative exponents too. -/
def tenPow (e : Int) : Rat :=
  if 0 ≤ e then (Nat.pow 10 e.toNat : Rat) else mkRat 1 (Nat.pow 10 (-e).toNat)

/-- The number of decimal digits of `n`, at least one. -/
def digitCount (n : Nat) : Nat := (Nat.toDigits 10 n).length

/-- The exponent of the largest power of ten that is at most `q`, for `0 < q`. -/
def decimalExponent (q : Rat) : Int :=
  if 1 ≤ q then (digitCount q.floor.toNat : Int) - 1
  else -(digitCount ((q⁻¹).ceil.toNat - 1) : Int)

namespace Decimal

def value (d : Decimal) : Rat := d.digits * tenPow d.exponent

/-- The neighbours of `q` on the grid whose step is ten to the power `exponent`, the nearer one
first; at equal distance the one with the even last digit. -/
def neighbours (q : Rat) (exponent : Int) : List Decimal :=
  let scaled := q / tenPow exponent
  let low := scaled.floor.toNat
  let rest := scaled - low
  let lower : Decimal := ⟨low, exponent⟩
  let upper : Decimal := ⟨low + 1, exponent⟩
  if rest < mkRat 1 2 ∨ (rest = mkRat 1 2 ∧ low % 2 = 0) then [lower, upper] else [upper, lower]

/-- The decimal is read as the double `q`. -/
def readsAs (q : Rat) (d : Decimal) : Bool := Double.ofRat d.value == .finite q

/-- The nearest decimal of `count` digits that is read as `q`, if there is one. -/
def ofDigitCount? (q : Rat) (count : Nat) : Option Decimal :=
  (neighbours q (decimalExponent q + 1 - count)).find? (readsAs q)

/-- The decimal with the fewest digits that is read as the positive double `q`. -/
def shortest (q : Rat) : Decimal :=
  ((List.range 17).findSome? fun n => ofDigitCount? q (n + 1)).getD ⟨0, 0⟩

end Decimal

/-- How numbers are laid out: from which decimal exponent to which one they are written with a
point and without an exponent, and the least number of digits of an exponent. -/
structure NumberLayout where
  plainFrom : Int
  plainBelow : Int
  exponentWidth : Nat

namespace NumberLayout

/-- The text of the digits with the decimal point after `point` of them; there is a digit on both
sides of the point. -/
def plain (digits : List Char) (point : Int) : List Char :=
  if point ≤ 0 then '0' :: '.' :: (List.replicate (-point).toNat '0' ++ digits)
  else
    let whole := digits.take point.toNat
    let fraction := digits.drop point.toNat
    whole ++ List.replicate (point.toNat - digits.length) '0' ++
      '.' :: (if fraction.isEmpty then ['0'] else fraction)

/-- The text with an exponent that has a sign; no point after a single digit. -/
def scientific (width : Nat) (digits : List Char) (exponent : Int) : List Char :=
  let power := Nat.toDigits 10 exponent.natAbs
  let mantissa :=
    match digits with
    | first :: second :: rest => first :: '.' :: second :: rest
    | digits => digits
  mantissa ++ 'e' :: (if exponent < 0 then '-' else '+') ::
    (List.replicate (width - power.length) '0' ++ power)

/-- The text of a positive double. -/
def positive (layout : NumberLayout) (q : Rat) : List Char :=
  let d := Decimal.shortest q
  let all := Nat.toDigits 10 d.digits
  let point := all.length + d.exponent
  let digits := (all.reverse.dropWhile (· = '0')).reverse
  if layout.plainFrom ≤ point - 1 ∧ point - 1 < layout.plainBelow then plain digits point
  else scientific layout.exponentWidth digits (point - 1)

end NumberLayout

/-- Numbers from `0.0001` up to `10^16` have no exponent; an exponent has two digits or more. -/
def numberLayout : NumberLayout := ⟨-4, 16, 2⟩

/-- The text of a double in messages and in sketches. -/
def Double.text : Double → String
  | .nan => "nan"
  | .infinite negative => if negative then "-inf" else "inf"
  | .negZero => "-0.0"
  | .finite q =>
    if q = 0 then "0.0"
    else .ofList ((if q < 0 then ['-'] else []) ++ numberLayout.positive q.abs)

end LedStudio
