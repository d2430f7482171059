import LedStudio.Fault
import LedStudio.Text.Search

/-!
# Templates

A template is a text with tokens in it: a name between two pairs of at signs. Tokens are replaced
one after the other, each by its own value, so a value may bring in a token that a later step
replaces. A text that still holds a token is no sketch.
-/

namespace LedStudio

namespace Template

/-- The two signs on both sides of a token's name. -/
def marker : List Char := ['@', '@']

/-- A token as it stands in a template. -/
def token (name : String) : List Char := marker ++ name.toList ++ marker

/-- Replaces rows in a text by others, one after the other. -/
def fillIn {α : Type} [BEq α] (text : List α) (values : List (List α × List α)) : List α :=
  values.foldl (fun text entry => Text.replaceAll entry.1 entry.2 text) text

/-- Replaces tokens by texts, one name after the other. -/
def render (template : List Char) (values : List (String × String)) : List Char :=
  fillIn template (values.map fun entry => (token entry.1, entry.2.toList))

/-! ## Tokens that are left -/

/-- A character of a token's name. -/
def isNameChar (c : Char) : Bool := c.isDigit || c.isUpper || c = '_'

/-- The token that a text begins with, if it does. -/
def leadingToken? (s : List Char) : Option (List Char) :=
  match s with
  | '@' :: '@' :: rest =>
    let name := rest.takeWhile isNameChar
    if !name.isEmpty && marker.isPrefixOf (rest.dropWhile isNameChar) then
      some (marker ++ name ++ marker)
    else none
  | _ => none

/-- The tokens of a text from left to right, after `skip` characters; they do not overlap. -/
def tokensFrom : (skip : Nat) → List Char → List (List Char)
  | _, [] => []
  | skip + 1, _ :: rest => tokensFrom skip rest
  | 0, c :: rest =>
    match leadingToken? (c :: rest) with
    | some found => found :: tokensFrom (found.length - 1) rest
    | none => tokensFrom 0 rest

/-- Puts a text into a sorted list without repetitions. -/
def insertSorted (s : String) : List String → List String
  | [] => [s]
  | t :: rest =>
    if s = t then t :: rest else if s < t then s :: t :: rest else t :: insertSorted s rest

/-- The tokens that a text holds, sorted and each once. -/
def leftover (text : List Char) : List String :=
  (tokensFrom 0 text).foldl (fun sorted found => insertSorted (.ofList found) sorted) []

/-- Refuses a text that holds a token. -/
def check (text : List Char) : Outcome Unit :=
  match leftover text with
  | [] => .ok ()
  | tokens => .error (.unresolvedTokens tokens)

end Template

/-- The template of a sketch. -/
def sketchTemplate : String :=
  "\n".intercalate
    ["// LED Generator sketch: @@PATTERN_NAME@@ pattern",
     "#include <FastLED.h>",
     "",
     "#define LED_PIN     @@LED_PIN@@",
     "#define NUM_LEDS    @@NUM_LEDS@@",
     "#define BRIGHTNESS  @@BRIGHTNESS@@",
     "#define LED_TYPE    @@LED_TYPE@@",
     "#define COLOR_ORDER @@COLOR_ORDER@@",
     "",
     "CRGB leds[NUM_LEDS];",
     "",
     "void setup() \x7b",
     "  FastLED.addLeds<LED_TYPE, LED_PIN, COLOR_ORDER>(leds, NUM_LEDS);",
     "  FastLED.setBrightness(BRIGHTNESS);",
     "\x7d",
     "",
     "void loop() \x7b",
     "  @@ROUTINE@@();",
     "  FastLED.show();",
     "  delay(@@FRAME_DELAY@@);",
     "\x7d",
     "",
     "void @@ROUTINE@@() \x7b",
     "  static uint32_t frame = 0;",
     "  frame++;",
     "",
     "  @@PATTERN_BODY@@",
     "\x7d",
     "",
     "@@HELPERS@@",
     ""]

end LedStudio
