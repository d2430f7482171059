import LedStudio.Fault
import LedStudio.Number.Numeral

/-!
# Integers and doubles together

A number is an integer of any size or a double. An integer that meets a double is first converted
to the nearest one, which an integer beyond the largest double refuses. The quotient of two
integers is rounded once, from its exact value.
-/

namespace LedStudio

inductive Number where
  | int (n : Int)
  | float (x : Double)
  deriving DecidableEq, Repr

namespace Double

/-- The double nearest to an integer; an integer that rounds to infinity has none. -/
def ofInt (n : Int) : Outcome Double :=
  match ofRat n with
  | infinite _ => .error .integerTooLarge
  | x => .ok x

/-- The quotient of two integers. -/
def quotient (a b : Int) : Outcome Double :=
  if b = 0 then .error .divisionByZero
  else if a = 0 then .ok (zero (decide (b < 0)))
  else
    match ofRat (a / b) with
    | infinite _ => .error .quotientTooLarge
    | x => .ok x

/-- An integer out of a double, by one of the ways to choose it. -/
def toIntBy (choose : Rat → Int) : Double → Outcome Int
  | finite q => .ok (choose q)
  | negZero => .ok 0
  | infinite _ => .error .infinityHasNoInteger
  | nan => .error .nanHasNoInteger

/-- The largest integer that is not above `x`. -/
def floor (x : Double) : Outcome Int := toIntBy Rat.floor x

/-- The integer part of `x`. -/
def integerPart (x : Double) : Outcome Int := toIntBy truncate x

/-- Zero or above; "not a number" is neither. -/
def isNonnegative : Double → Bool
  | finite q => decide (0 ≤ q)
  | negZero => true
  | infinite negative => !negative
  | nan => false

/-- The first number unless the second is greater. -/
def max (x y : Double) : Double := if lt x y then y else x

/-- The first number unless the second is smaller. -/
def min (x y : Double) : Double := if lt y x then y else x

def one : Double := finite 1

def half : Double := finite (mkRat 1 2)

/-- The integer nearest to a double, a half away from zero: half is added to its size, and the
fraction of that rounded sum is dropped. -/
def roundHalfAway (x : Double) : Outcome Int :=
  if x.isNonnegative then (x.add half).floor
  else (x.neg.add half).floor.map (- ·)

end Double

namespace Number

def toDouble : Number → Outcome Double
  | int n => Double.ofInt n
  | float x => .ok x

/-- The quotient by a positive integer. -/
def dividedBy (n : Number) (d : Nat) : Outcome Double :=
  match n with
  | int n => Double.quotient n d
  | float x => .ok (x.divRat d)

def isBelow (n : Number) (q : Rat) : Bool :=
  match n with
  | int n => decide ((n : Rat) < q)
  | float x => x.ltRat q

def isAbove (n : Number) (q : Rat) : Bool :=
  match n with
  | int n => decide (q < (n : Rat))
  | float x => x.gtRat q

/-- The integer nearest to a number, a half away from zero. -/
def roundHalfAway (n : Number) : Outcome Int := n.toDouble.bind Double.roundHalfAway

end Number

/-- The integer of a spelling in a base. -/
def Numeral.Spelling.toInt (base : Nat) (spelled : Value) : Numeral.Spelling → Outcome Int
  | .integer n => .ok n
  | .overlong digits => .error (.overlongInteger digits)
  | .malformed => .error (.notAnInteger base spelled)

/-- The integer that a text spells in a base. -/
def spelledInt (base : Nat) (s : String) : Outcome Int :=
  (Numeral.spell base s.toList).toInt base (.text s)

/-- The integer that code points spell in a base; a half character is no digit and no white space,
and neither is what it is shown by. -/
def spelledPoints (base : Nat) (points : List Nat) : Outcome Int :=
  (Numeral.spell base (Text.shownPoints points).toList).toInt base (.ofPoints points)

/-! ## Writing integers -/

/-- The least size that an integer has too many digits to be written with. -/
def unwritableSize : Nat := Nat.pow 10 Numeral.digitLimit

/-- An integer that is not too long to be written. -/
def isWritableInt (n : Int) : Bool := n.natAbs < unwritableSize

/-- The decimal digits of an integer, with a minus sign perhaps. -/
def writtenInt (n : Int) : Outcome String :=
  if isWritableInt n then .ok (toString n) else .error .unwritableInteger

namespace Value

mutual
/-- A value without integers that are too long to be written. -/
def isWritable : Value → Bool
  | int n => isWritableInt n
  | list items => areWritable items
  | tuple items => areWritable items
  | set members => areWritable members
  | map entries => entriesWritable entries
  | _ => true

def areWritable : List Value → Bool
  | [] => true
  | v :: rest => isWritable v && areWritable rest

def entriesWritable : List (Value × Value) → Bool
  | [] => true
  | (key, v) :: rest => isWritable key && isWritable v && entriesWritable rest
end

/-- The text of a value, if it can be written. -/
def written (v : Value) : Outcome String :=
  if v.isWritable then .ok v.display else .error .unwritableInteger

/-- The code points of the text of a value, if it can be written. -/
def writtenPoints (v : Value) : Outcome (List Nat) :=
  match v with
  | brokenText points => .ok points
  | v => v.written.map fun s => (text s).points

/-! ## Integers of values -/

/-- The number that a value is; a truth value counts as one or zero. -/
def number? : Value → Option Number
  | bool b => some (.int (if b then 1 else 0))
  | int n => some (.int n)
  | float x => some (.float x)
  | _ => none

/-- The integer that a value stands for: a number's integer part, or what a text spells. -/
def toInt : Value → Outcome Int
  | bool b => .ok (if b then 1 else 0)
  | int n => .ok n
  | float x => x.integerPart
  | loneNan => .error .nanHasNoInteger
  | text s => spelledInt 10 s
  | brokenText points => spelledPoints 10 points
  | bytes b => (Numeral.spellBytes 10 b).toInt 10 (.bytes b)
  | v => .error (.noInteger v.kind)

end Value
end LedStudio
