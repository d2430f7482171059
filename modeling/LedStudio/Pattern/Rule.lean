import LedStudio.Color
import LedStudio.Number.Sine
import LedStudio.Pattern.Basic

/-!
# Pattern rules

The colour of one LED in one frame, before the brightness is applied. A rule sees the index of the
LED, the frame, the number of LEDs and one random number, which most rules do not look at.
-/

namespace LedStudio

namespace Rule

/-- A third of a turn of a hue that goes once around the strip and two degrees further with each
frame. -/
def rainbow (i frame count : Int) : Outcome Color := do
  let share ← Double.quotient i count
  let shift ← Double.ofInt (frame * 2)
  let hue := ((share.mul (.finite 360)).add shift).modRat 360
  Color.ofHsl (.float hue) (.int 100) (.int 50)

/-- The tenth of a radian by which a frame moves a wave. -/
def phasePerFrame : Double := .ofRat (mkRat 1 10)

/-- The double nearest to half a turn. -/
def halfTurn : Double := .finite (mkRat 884279719003555 (Nat.pow 2 48))

def sine (x : Double) : Outcome Double :=
  match x.sine? with
  | some y => .ok y
  | none => .error .noSine

/-- The phase of a frame, in radians. -/
def phase (frame : Int) : Outcome Double := (Double.ofInt frame).map (·.mul phasePerFrame)

/-- Red and green swing against each other along one wave; blue stays. -/
def wave (i frame count : Int) : Outcome Color := do
  let share ← Double.quotient i count
  let moved ← phase frame
  let height ← sine (((share.mul halfTurn).mul (.finite 2)).add moved)
  let level := (height.mul .half).add .half
  let red ← (level.mul (.finite 255)).roundHalfAway
  let green ← ((Double.sub .one level).mul (.finite 255)).roundHalfAway
  return Color.ofInts red green 128

/-- A purple head that moves one LED a frame and fades out over three LEDs on both sides. -/
def chase (i frame count : Int) : Outcome Color := do
  if count = 0 then throw .remainderByZero
  let distance := (i - Int.fmod frame count).natAbs
  let fading ← Double.quotient distance 3
  let level := Double.max (.finite 0) (.sub .one fading)
  let outer ← (level.mul (.finite 255)).roundHalfAway
  let inner ← (level.mul (.finite 100)).roundHalfAway
  return Color.ofInts outer inner outer

/-- White for two frames, black for two. -/
def strobe (frame : Int) : Color :=
  if Int.fmod (Int.fdiv frame 2) 2 = 0 then Color.white else Color.black

/-- Orange at a random level from a half to one. -/
def fire (sample : Double) : Outcome Color := do
  let level := (sample.mul .half).add .half
  let red ← (Double.mul (.finite 255) level).roundHalfAway
  let green ← (Double.mul (.finite 100) level).roundHalfAway
  return Color.ofInts red green 0

/-- The first half of the strip is red in one phase of three frames, the second half is blue in
the next. -/
def police (i frame count : Int) : Color :=
  let phase := Int.fmod (Int.fdiv frame 3) 2
  if i < Int.fdiv count 2 then (if phase = 0 then Color.pureRed else Color.black)
  else if phase = 1 then Color.pureBlue else Color.black

/-- Above this random number an LED sparkles. -/
def sparkleThreshold : Double := .ofRat (mkRat 95 100)

/-- Dim blue, and white where the random number is high. -/
def sparkle (sample : Double) : Color :=
  if sparkleThreshold.lt sample then Color.white else ⟨0, 0, 20⟩

/-- The whole strip swells and fades in a soft blue. -/
def breathing (frame : Int) : Outcome Color := do
  let height ← (phase frame).bind sine
  let level := (height.add .one).divRat 2
  let channel (n : Int) := (level.mul (.finite n)).roundHalfAway
  return Color.ofInts (← channel 100) (← channel 150) (← channel 255)

end Rule

/-- The colour of LED `i` in a frame; `none` is the pattern that is all white. -/
def paint (pattern : Option PatternId) (i frame count : Int) (sample : Double) : Outcome Color :=
  match pattern with
  | some .rainbow => Rule.rainbow i frame count
  | some .wave => Rule.wave i frame count
  | some .chase => Rule.chase i frame count
  | some .strobe => .ok (Rule.strobe frame)
  | some .fire => Rule.fire sample
  | some .police => .ok (Rule.police i frame count)
  | some .sparkle => .ok (Rule.sparkle sample)
  | some .breathing => Rule.breathing frame
  | none => .ok Color.white

end LedStudio
