import LedStudio.Log
import LedStudio.Sketch.Snippet
import LedStudio.Sketch.Template
import LedStudio.Strip

/-!
# Sketches

A sketch is the source of a program for a controller board that plays a pattern. It is the template
with the wiring, the settings of the strip, and the routine of the pattern put in.
-/

namespace LedStudio

/-- How the strip is connected to the board. -/
structure Wiring where
  ledPin : Value := .int 6
  ledType : Value := .text "WS2812B"
  colorOrder : Value := .text "GRB"
  deriving Repr, Inhabited

/-! ## The name of the routine -/

/-- A character that may stand in an identifier. -/
def isIdentifierChar (c : Char) : Bool := c.isAlphanum || c = '_'

/-- An identifier made of a text: other characters become underscores, an empty one becomes
`solid`, and one that begins with a digit gets a letter in front. -/
def identifier (s : List Char) : List Char :=
  match (Text.trim s).map fun c => if isIdentifierChar c then c else '_' with
  | [] => "solid".toList
  | c :: rest => if c.isDigit then 'p' :: c :: rest else c :: rest

namespace PatternRef

/-- The name of a pattern in a sketch. -/
def sketchName (ref : PatternRef) : String :=
  match ref.resolve with
  | some p => p.name
  | none => .ofList (identifier ref.name.toList)

/-- The name of the routine that draws a frame. -/
def routineName (ref : PatternRef) : String := ref.sketchName ++ "Pattern"

end PatternRef

/-! ## The source -/

namespace Sketch

/-- A value that takes the place of a token, which has to be a text. -/
def replacement : Value → Outcome String
  | .text s => .ok s
  | .brokenText points => .ok (Text.shownPoints points)
  | v => .error (.replacementNotText v.kind)

/-- The brightness in a sketch, from zero to a hundred. -/
def clampLevel (v : Value) : Outcome Int := v.toInt.map fun n => max 0 (min 100 n)

/-- The numbers that a sketch is written with. -/
structure Setup where
  ledCount : Int
  brightness : Int
  speed : Int
  deriving DecidableEq, Repr

/-- The settings of a sketch, clamped. -/
def Setup.clamped (ledCount level speed : Value) : Outcome Setup := do
  return ⟨← clampLedCount ledCount, ← clampLevel level, ← clampSpeed speed⟩

/-- The pause between two frames, in milliseconds. -/
def Setup.frameDelay (settings : Setup) : Int := 100 - settings.speed

/-- What takes the place of each token. -/
def tokenValues (pattern : PatternRef) (settings : Setup)
    (ledPin ledType colorOrder : String) : List (String × String) :=
  [("PATTERN_NAME", pattern.sketchName),
   ("LED_PIN", ledPin),
   ("NUM_LEDS", toString settings.ledCount),
   ("BRIGHTNESS", toString settings.brightness),
   ("LED_TYPE", ledType),
   ("COLOR_ORDER", colorOrder),
   ("ROUTINE", pattern.routineName),
   ("FRAME_DELAY", toString settings.frameDelay),
   ("PATTERN_BODY", pattern.snippet),
   ("HELPERS", Snippet.helpers)]

/-- The source of a sketch and the log of writing it. -/
def generate (pattern : PatternRef) (ledCount level speed : Value) (wiring : Wiring) :
    Outcome (String × Log) := do
  let strip ← Setup.clamped ledCount level speed
  let ledPin ← wiring.ledPin.written
  let _ ← writtenInt strip.ledCount
  let values := tokenValues pattern strip ledPin (← replacement wiring.ledType)
    (← replacement wiring.colorOrder)
  let code := Template.render sketchTemplate.toList values
  Template.check code
  return (.ofList code,
    [⟨.codegen, .debug, "Firmware source generated",
      [detail "pattern" pattern.sketchName, detail "num_leds" (toString strip.ledCount),
        detail "frame_delay_ms" (toString strip.frameDelay),
        detail "chars" (toString code.length)]⟩])

/-! ## Half characters -/

/-- The code points that take the place of a token. -/
def tokenPoints (wiring : Wiring) (name text : String) : List Nat :=
  if name = "LED_TYPE" then wiring.ledType.points
  else if name = "COLOR_ORDER" then wiring.colorOrder.points
  else text.toList.map Char.toNat

/-- The code points of the source. -/
def codePoints (pattern : PatternRef) (strip : Setup) (wiring : Wiring) : List Nat :=
  Template.fillIn (sketchTemplate.toList.map Char.toNat)
    ((tokenValues pattern strip wiring.ledPin.display "" "").map fun (name, text) =>
      ((Template.token name).map Char.toNat, tokenPoints wiring name text))

/-- The code points of a source that half characters in the wiring keep from being a text;
`generate` shows them by the replacement character. -/
def brokenPoints? (pattern : PatternRef) (ledCount level speed : Value) (wiring : Wiring) :
    Option (List Nat) :=
  match Setup.clamped ledCount level speed with
  | .ok strip => some (codePoints pattern strip wiring) |>.filter (·.any Text.isHalf)
  | .error _ => none

end Sketch
end LedStudio
