import LedStudio.Log
import LedStudio.Pattern.Rule
import LedStudio.Pattern.Stream
import LedStudio.Strip

/-!
# Frames

A frame is the colours of a whole strip. It is computed anew each time, LED after LED; a random
pattern reads one number for each LED, also for one whose colour then cannot be computed.
-/

namespace LedStudio

/-- The random numbers that one LED of a pattern reads. -/
def draws (pattern : Option PatternId) : Nat :=
  match pattern with
  | some p => if p.isRandom then 1 else 0
  | none => 0

/-- The colour of one LED and the stream behind it. -/
def ledColor (pattern : Option PatternId) (i frame count : Int) (stream : Stream) :
    Outcome Color × Stream :=
  (paint pattern i frame count stream.head, stream.skip (draws pattern))

/-- The colours of `left` LEDs from LED `i` on, after those that are done, latest first. -/
def ledsFrom (pattern : Option PatternId) (frame count : Int) (brightness : Value) :
    (left : Nat) → (i : Int) → (done : List Color) → Stream → Outcome (List Color) × Stream
  | 0, _, done, stream => (.ok done.reverse, stream)
  | left + 1, i, done, stream =>
    let (color, stream) := ledColor pattern i frame count stream
    match color.bind (·.withBrightness brightness) with
    | .error fault => (.error fault, stream)
    | .ok color => ledsFrom pattern frame count brightness left (i + 1) (color :: done) stream

/-- What computing a frame gives: the colours or a fault, the stream behind it, and the log. -/
structure Picture where
  leds : Outcome (List Color)
  stream : Stream
  log : Log

/-- The checks before a frame: the number of LEDs, clamped. -/
def frameSize (ledCount : Value) (frame : Int) : Outcome Int := do
  let count ← clampLedCount ledCount
  if frame < 0 then throw (.negativeFrame frame)
  return count

/-- The colours of every LED in a frame. -/
def computeFrame (pattern : PatternRef) (ledCount : Value) (frame : Int) (brightness : Value)
    (stream : Stream) : Picture :=
  match frameSize ledCount frame with
  | .error fault => ⟨.error fault, stream, []⟩
  | .ok count =>
    let log : Log :=
      match pattern.resolve with
      | some _ => []
      | none =>
        [⟨.pattern, .debug, "Unknown pattern '" ++ pattern.name ++ "', using solid white", []⟩]
    let (leds, stream) := ledsFrom pattern.resolve frame count brightness count.toNat 0 [] stream
    ⟨leds, stream, log⟩

end LedStudio
