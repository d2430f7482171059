import LedStudio.Number.Double

/-!
# The sine of a double

The angle is an exact rational. It is reduced by quarter turns, the rest is taken as a fixed-point
number, the series is summed there, and the result is rounded once to a double. The fixed point has
256 binary places and the quarter turn 1400, so the error before the rounding is far below the last
place of any result.
-/

namespace LedStudio

namespace Sine

/-- The number of binary places of `piScaled`. -/
def piPlaces : Nat := 1400

/-- The number of binary places of the series. -/
def places : Nat := 256

/-- The arc tangent of `1 / k` as a fixed-point number with `p` places, summed over 320 terms. -/
def arcTangentOfInverse (p k : Nat) : Int :=
  (List.range 320).foldl (fun sum n =>
    let term := Int.ofNat (Nat.pow 2 p / (Nat.pow k (2 * n + 1) * (2 * n + 1)))
    if n % 2 = 0 then sum + term else sum - term) 0

/-- The half turn as a fixed-point number: `16 arctan (1/5) - 4 arctan (1/239)`. -/
def piScaled : Int :=
  (16 * arcTangentOfInverse (piPlaces + 32) 5 - 4 * arcTangentOfInverse (piPlaces + 32) 239)
    / (Nat.pow 2 32 : Nat)

/-- The number of quarter turns in an angle. -/
def quarterTurns (q : Rat) : Int := (q * (Nat.pow 2 (piPlaces + 1) : Rat) / piScaled).floor

/-- The angle that is left after `turns` quarter turns, as a fixed-point number. -/
def remainder (q : Rat) (turns : Int) : Int :=
  ((q * (Nat.pow 2 (piPlaces + 1) : Rat) - turns * piScaled)
    / (Nat.pow 2 (piPlaces + 1 - places) : Rat)).floor

/-- One as a fixed-point number. -/
def unit : Int := Nat.pow 2 places

/-- The terms of a power series in `x²`, each the one before it times `-x² / ((k+1)(k+2))`. -/
def alternating (square : Int) : Nat → Nat → Int → Int
  | 0, _, _ => 0
  | count + 1, k, term =>
    term + alternating square count (k + 2)
      (-(term * square / unit) / ((k + 1) * (k + 2)))

/-- The square of a fixed-point number. -/
def squared (x : Int) : Int := x * x / unit

/-- The sine of a fixed-point angle of at most a quarter turn. -/
def series (x : Int) : Int := alternating (squared x) 60 1 x

/-- The cosine of a fixed-point angle of at most a quarter turn. -/
def cosineSeries (x : Int) : Int := alternating (squared x) 60 0 unit

/-- The sine of an angle, up to a relative error far below a double's last place. -/
def value (q : Rat) : Rat :=
  if q.abs < twoPow (-27) then q - q * q * q / 6
  else
    let turns := quarterTurns q
    let rest := remainder q turns
    let scaled :=
      match turns % 4 with
      | 0 => series rest
      | 1 => cosineSeries rest
      | 2 => -series rest
      | _ => -cosineSeries rest
    scaled / (unit : Rat)

end Sine

/-- The sine; none of an infinite angle. -/
def Double.sine? : Double → Option Double
  | .finite q => some (.ofRat (Sine.value q))
  | .negZero => some .negZero
  | .infinite _ => none
  | .nan => some .nan

end LedStudio
