/-!
# Binary64 numbers

A double is an exact rational value, or one of the values that no rational stands for: minus zero,
the infinities and "not a number". An operation computes its exact result and rounds it once, to
the nearest double, a tie to the even last place. `ofRat` is that rounding.
-/

namespace LedStudio

/-- A binary64 number; plus zero is `finite 0`. -/
inductive Double where
  | finite (value : Rat)
  | negZero
  | infinite (negative : Bool)
  | nan
  deriving DecidableEq, Repr

/-- The power of two, for negative exponents too. -/
def twoPow (e : Int) : Rat :=
  if 0 ≤ e then (Nat.pow 2 e.toNat : Rat) else mkRat 1 (Nat.pow 2 (-e).toNat)

/-- The integer nearest to `q`; a half goes to the even neighbour. -/
def roundHalfEven (q : Rat) : Int :=
  let low := q.floor
  let rest := q - low
  if rest < mkRat 1 2 then low
  else if mkRat 1 2 < rest then low + 1
  else if low % 2 = 0 then low else low + 1

/-- The integer part of `q`. -/
def truncate (q : Rat) : Int := if 0 ≤ q then q.floor else q.ceil

/-- The exponent of the largest power of two that is at most the size of `q`, for `q ≠ 0`. -/
def binaryExponent (q : Rat) : Int :=
  let guess : Int := (q.num.natAbs.log2 : Int) - q.den.log2
  if twoPow guess ≤ q.abs then guess else guess - 1

namespace Double

/-- The exponent of the last place of a double near `q`: 53 digits, and none below `2^(-1074)`. -/
def lastPlace (q : Rat) : Int := max (binaryExponent q - 52) (-1074)

/-- The double nearest to `q`, ties to the even last place. -/
def ofRat (q : Rat) : Double :=
  if q = 0 then finite 0
  else
    let unit := twoPow (lastPlace q)
    let nearest := roundHalfEven (q / unit) * unit
    if twoPow 1024 ≤ nearest.abs then infinite (decide (q < 0))
    else if nearest = 0 ∧ q < 0 then negZero
    else finite nearest

/-- Zero with a sign. -/
def zero (negative : Bool) : Double := if negative then negZero else finite 0

/-- The sign of a value; "not a number" has none. -/
def isNegative : Double → Bool
  | finite q => decide (q < 0)
  | negZero => true
  | infinite negative => negative
  | nan => false

/-- The rational that a finite double stands for. -/
def rational? : Double → Option Rat
  | finite q => some q
  | negZero => some 0
  | _ => none

def neg : Double → Double
  | finite q => if q = 0 then negZero else finite (-q)
  | negZero => finite 0
  | infinite negative => infinite !negative
  | nan => nan

/-- The sum. Two zeros of opposite signs give plus zero, and so do `q` and `-q`. -/
def add : Double → Double → Double
  | nan, _ => nan
  | _, nan => nan
  | infinite a, infinite b => if a = b then infinite a else nan
  | infinite a, _ => infinite a
  | _, infinite b => infinite b
  | negZero, negZero => negZero
  | negZero, finite q => finite q
  | finite p, negZero => finite p
  | finite p, finite q => ofRat (p + q)

def sub (x y : Double) : Double := add x (neg y)

/-- The product of two finite values and the sign it has even when it vanishes. -/
def mulFinite (negative : Bool) (p q : Rat) : Double :=
  if p * q = 0 then zero negative else ofRat (p * q)

def mul (x y : Double) : Double :=
  let negative := x.isNegative != y.isNegative
  match x, y with
  | nan, _ => nan
  | _, nan => nan
  | infinite _, infinite _ => infinite negative
  | infinite _, y => if y.rational? = some 0 then nan else infinite negative
  | x, infinite _ => if x.rational? = some 0 then nan else infinite negative
  | x, y => mulFinite negative (x.rational?.getD 0) (y.rational?.getD 0)

/-- The quotient by a rational that is not zero. -/
def divRat (x : Double) (d : Rat) : Double :=
  let negative := x.isNegative != decide (d < 0)
  match x with
  | nan => nan
  | infinite _ => infinite negative
  | x =>
    let q := x.rational?.getD 0
    if q = 0 then zero negative else ofRat (q / d)

/-- The remainder by a positive rational, from zero up to it. The remainder toward zero is exact;
where it is negative the divisor is added, and that sum is rounded. -/
def modRat (x : Double) (d : Rat) : Double :=
  match x.rational? with
  | none => nan
  | some q =>
    let rest := q - truncate (q / d) * d
    if rest < 0 then ofRat (rest + d) else finite rest

/-- Less than a rational. -/
def ltRat : Double → Rat → Bool
  | finite q, r => decide (q < r)
  | negZero, r => decide (0 < r)
  | infinite negative, _ => negative
  | nan, _ => false

/-- Greater than a rational. -/
def gtRat : Double → Rat → Bool
  | finite q, r => decide (r < q)
  | negZero, r => decide (r < 0)
  | infinite negative, _ => !negative
  | nan, _ => false

/-- The order; "not a number" is below nothing and above nothing. -/
def lt : Double → Double → Bool
  | nan, _ => false
  | _, nan => false
  | infinite a, infinite b => a && !b
  | infinite a, _ => a
  | _, infinite b => !b
  | x, y => decide (x.rational?.getD 0 < y.rational?.getD 0)

/-- The 64 bits of a value, as a number; "not a number" has no fixed ones. -/
def bits? : Double → Option Nat
  | nan => none
  | negZero => some (Nat.pow 2 63)
  | infinite negative => some ((if negative then Nat.pow 2 63 else 0) + 2047 * Nat.pow 2 52)
  | finite q =>
    if q = 0 then some 0
    else
      let place := lastPlace q
      let significand := (q.abs / twoPow place).floor.toNat
      let sign := if q < 0 then Nat.pow 2 63 else 0
      if significand < Nat.pow 2 52 then some (sign + significand)
      else some (sign + (place + 1075).toNat * Nat.pow 2 52 + (significand - Nat.pow 2 52))

end Double
end LedStudio
