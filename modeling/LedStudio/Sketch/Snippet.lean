import LedStudio.Pattern.Basic

/-!
# Snippets

The body of a sketch's frame routine, one for each pattern. It shows what the pattern's rule shows,
in the units of the LED library: 256 hues and 256 sine levels. Products that do not fit 16 bits are
widened, as an integer has no more on small boards.
-/

namespace LedStudio

namespace Snippet

/-- Lines one below the other. -/
def lines (parts : List String) : String := "\n".intercalate parts

/-- Hues run once around the strip and 256 units in 180 frames. -/
def rainbow : String :=
  lines
    ["for(int i = 0; i < NUM_LEDS; i++) \x7b",
     "    uint8_t hue = (i * 256L / NUM_LEDS + (frame % 180) * 256 / 180) % 256;",
     "    leds[i] = CHSV(hue, 255, 255);",
     "  \x7d"]

/-- Four sine units a frame are about a tenth of a radian. -/
def wave : String :=
  lines
    ["for(int i = 0; i < NUM_LEDS; i++) \x7b",
     "    uint8_t value = sin8(i * 256L / NUM_LEDS + frame * 4);",
     "    leds[i] = CRGB(value, 255 - value, 128);",
     "  \x7d"]

/-- A level that falls by a third for each LED from the head. -/
def chase : String :=
  lines
    ["int pos = frame % NUM_LEDS;",
     "  for(int i = 0; i < NUM_LEDS; i++) \x7b",
     "    int dist = abs(i - pos);",
     "    uint8_t level = dist < 3 ? 255 - dist * 85 : 0;",
     "    leds[i] = CRGB(level, level * 100 / 255, level);",
     "  \x7d"]

/-- Two frames on, two frames off. -/
def strobe : String :=
  lines
    ["bool strobeOn = (frame / 2) % 2 == 0;",
     "  fill_solid(leds, NUM_LEDS, strobeOn ? CRGB::White : CRGB::Black);"]

/-- A random level in the upper half. -/
def fire : String :=
  lines
    ["for(int i = 0; i < NUM_LEDS; i++) \x7b",
     "    uint8_t heat = random8(128, 255);",
     "    leds[i] = CRGB(heat, heat * 100 / 255, 0);",
     "  \x7d"]

/-- Each phase lasts three frames. -/
def police : String :=
  lines
    ["uint8_t phase = (frame / 3) % 2;",
     "  fill_solid(leds, NUM_LEDS / 2, phase == 0 ? CRGB::Red : CRGB::Black);",
     "  fill_solid(leds + NUM_LEDS / 2, NUM_LEDS - NUM_LEDS / 2, phase == 1 ? CRGB::Blue : CRGB::Black);"]

/-- Thirteen of 256 are about one in twenty. -/
def sparkle : String :=
  lines
    ["for(int i = 0; i < NUM_LEDS; i++) \x7b",
     "    leds[i] = random8() < 13 ? CRGB(CRGB::White) : CRGB(0, 0, 20);",
     "  \x7d"]

/-- One sine level, widened before it is multiplied. -/
def breathing : String :=
  lines
    ["uint8_t breathe = sin8(frame * 4);",
     "  fill_solid(leds, NUM_LEDS, CRGB((uint16_t)breathe * 100 / 255, (uint16_t)breathe * 150 / 255, breathe));"]

/-- The body for a pattern that is not known. -/
def solidWhite : String :=
  lines
    ["fill_solid(leds, NUM_LEDS, CRGB::White);"]

/-- The comment at the end of a sketch. -/
def helpers : String :=
  lines
    ["// Helper functions are provided by FastLED library",
     "// sin8(), random8(), fill_solid(), etc."]

end Snippet

/-- The body of the frame routine of a pattern. -/
def PatternId.snippet : PatternId → String
  | rainbow => Snippet.rainbow
  | wave => Snippet.wave
  | chase => Snippet.chase
  | strobe => Snippet.strobe
  | fire => Snippet.fire
  | police => Snippet.police
  | sparkle => Snippet.sparkle
  | breathing => Snippet.breathing

/-- The body of the frame routine for a reference; one that names no pattern gives solid white. -/
def PatternRef.snippet (ref : PatternRef) : String :=
  match ref.resolve with
  | some p => p.snippet
  | none => Snippet.solidWhite

end LedStudio
