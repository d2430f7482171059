import LedStudio.Number.Mixed

/-!
# The strip

The numbers that a user tunes: how many LEDs, how bright, how fast. A number out of its range is
clamped; only a negative count of LEDs is refused, and so is what is no number.
-/

namespace LedStudio

/-- A range of integers, which may have no upper end. -/
structure IntRange where
  low : Int
  high : Option Int
  default : Int

namespace IntRange

/-- The nearest integer in the range; the upper end wins where the ends are crossed. -/
def clampInt (r : IntRange) (n : Int) : Int :=
  match r.high with
  | some high => min high (max r.low n)
  | none => max r.low n

/-- The integer in the range that is nearest to what a value stands for. -/
def clamp (r : IntRange) (v : Value) : Outcome Int := v.toInt.map r.clampInt

end IntRange

def ledCountRange : IntRange := ⟨1, none, 20⟩

def brightnessRange : IntRange := ⟨10, some 100, 100⟩

def speedRange : IntRange := ⟨0, some 100, 50⟩

/-- The integer part of a setting, which has to be a number and no truth value. -/
def settingInt (name : String) : Value → Outcome Int
  | .int n => .ok n
  | .float x => x.integerPart
  | v => .error (.notANumber name v.kind)

def clampLedCount (v : Value) : Outcome Int := do
  let n ← settingInt "led_count" v
  if n < 0 then throw (if isWritableInt n then .negativeLedCount n else .unwritableInteger)
  return ledCountRange.clampInt n

def clampBrightness (v : Value) : Outcome Int :=
  (settingInt "brightness" v).map brightnessRange.clampInt

def clampSpeed (v : Value) : Outcome Int := (settingInt "speed" v).map speedRange.clampInt

/-- The settings of a strip. Those that are clamped are integers; settings that are taken as they
are may be anything, and show it where they are used. -/
structure StripConfig where
  ledCount : Value := .int ledCountRange.default
  brightness : Value := .int brightnessRange.default
  speed : Value := .int speedRange.default
  deriving Repr, Inhabited

namespace StripConfig

/-- A number is zero or less; "not a number" is not. -/
def isAtMostZero : Number → Bool
  | .int n => decide (n ≤ 0)
  | .float (.finite q) => decide (q ≤ 0)
  | .float .negZero => true
  | .float (.infinite negative) => negative
  | .float .nan => false

/-- Settings taken as they are; there has to be an LED. -/
def checked (ledCount brightness speed : Value) : Outcome StripConfig :=
  match ledCount.number? with
  | none => .error (.notOrdered "<=" ledCount.kind .int)
  | some n =>
    if isAtMostZero n then .error (.ledCountNotPositive ledCount)
    else .ok ⟨ledCount, brightness, speed⟩

/-- Settings clamped to their ranges. -/
def clamped (ledCount brightness speed : Value) : Outcome StripConfig := do
  checked (.int (← clampLedCount ledCount)) (.int (← clampBrightness brightness))
    (.int (← clampSpeed speed))

def withLedCount (c : StripConfig) (v : Value) : Outcome StripConfig := do
  checked (.int (← clampLedCount v)) c.brightness c.speed

def withBrightness (c : StripConfig) (v : Value) : Outcome StripConfig := do
  checked c.ledCount (.int (← clampBrightness v)) c.speed

def withSpeed (c : StripConfig) (v : Value) : Outcome StripConfig := do
  checked c.ledCount c.brightness (.int (← clampSpeed v))

end StripConfig
end LedStudio
