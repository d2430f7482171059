import LedStudio.Number.Mixed

/-!
# Colours

A colour is three channels of a byte each. Channels are computed with doubles, rounded with a half
away from zero, and clamped; a brightness is a percentage that is clamped first.
-/

namespace LedStudio

/-- The channel nearest to an integer. -/
def clampChannel (n : Int) : UInt8 := .ofNat (max 0 (min 255 n)).toNat

/-- The channel nearest to a number. -/
def Number.channel (n : Number) : Outcome UInt8 := n.roundHalfAway.map clampChannel

/-- The channel nearest to a double. -/
def Double.channel (x : Double) : Outcome UInt8 := x.roundHalfAway.map clampChannel

structure Color where
  red : UInt8 := 0
  green : UInt8 := 0
  blue : UInt8 := 0
  deriving DecidableEq, Repr, Inhabited

namespace Color

def black : Color := ⟨0, 0, 0⟩

def white : Color := ⟨255, 255, 255⟩

def pureRed : Color := ⟨255, 0, 0⟩

def pureBlue : Color := ⟨0, 0, 255⟩

/-- The colour whose channels are nearest to three integers. -/
def ofInts (r g b : Int) : Color := ⟨clampChannel r, clampChannel g, clampChannel b⟩

/-- The colour whose channels are nearest to the integers that three values stand for. -/
def ofValues (r g b : Value) : Outcome Color := do
  return ofInts (← r.toInt) (← g.toInt) (← b.toInt)

/-- The channels as integers. -/
def channels (c : Color) : List Int := [c.red.toNat, c.green.toNat, c.blue.toNat]

/-! ## Hue, saturation and lightness -/

/-- Where a channel that starts at `n` stands on the colour wheel, in twelfths of a turn. -/
def wheelPosition (n : Int) (turned : Double) : Double := (Double.add (.finite n) turned).modRat 12

/-- How a channel leans to one side of the lightness, between minus one and one. -/
def lean (position : Double) : Double :=
  .max (.finite (-1))
    (.min (.min (position.sub (.finite 3)) (Double.sub (.finite 9) position)) .one)

/-- The channel that starts at `n`, for a lightness, the greatest distance from it, and the hue in
twelfths of a turn. -/
def hslChannel (lightness swing turned : Double) (n : Int) : Outcome UInt8 :=
  (Double.mul (.finite 255) (lightness.sub (swing.mul (lean (wheelPosition n turned))))).channel

/-- The colour with a hue in degrees, and a saturation and a lightness in percent. -/
def ofHsl (hue saturation lightness : Number) : Outcome Color := do
  let s ← saturation.dividedBy 100
  let l ← lightness.dividedBy 100
  let swing := s.mul (.min l (.sub .one l))
  let turned ← hue.dividedBy 30
  return ⟨← hslChannel l swing turned 0, ← hslChannel l swing turned 8,
    ← hslChannel l swing turned 4⟩

/-! ## Brightness -/

/-- The factor of a brightness in percent, clamped to a hundred and then to zero; a brightness
that is no number on either side of a bound counts as a hundred. -/
def brightnessFactor (brightness : Number) : Outcome Double :=
  if !brightness.isBelow 100 then .ok .one
  else if !brightness.isAbove 0 then .ok (.finite 0)
  else brightness.dividedBy 100

/-- The factor of a brightness given as a value. -/
def brightnessFactorOf (brightness : Value) : Outcome Double :=
  match brightness.number? with
  | some n => brightnessFactor n
  | none => .error (.notOrdered "<" brightness.kind .float)

/-- A channel times a factor. -/
def scaleChannel (channel : Number) (factor : Double) : Outcome UInt8 := do
  ((← channel.toDouble).mul factor).channel

/-- Three channels, of any size, times the factor of a brightness. -/
def scaled (r g b brightness : Number) : Outcome Color := do
  let factor ← brightnessFactor brightness
  return ⟨← scaleChannel r factor, ← scaleChannel g factor, ← scaleChannel b factor⟩

/-- The colour at a brightness. -/
def withBrightness (c : Color) (brightness : Value) : Outcome Color := do
  let factor ← brightnessFactorOf brightness
  let scale (channel : UInt8) := scaleChannel (.int channel.toNat) factor
  return ⟨← scale c.red, ← scale c.green, ← scale c.blue⟩

/-! ## Texts of colours -/

def hexByte (b : UInt8) : String := .ofList (Text.hexDigits 2 b.toNat)

/-- The colour as `#rrggbb`. -/
def hex (c : Color) : String := "#" ++ hexByte c.red ++ hexByte c.green ++ hexByte c.blue

def text (c : Color) : String :=
  "Color(RGB=(" ++ ", ".intercalate (c.channels.map toString) ++ "))"

end Color
end LedStudio
