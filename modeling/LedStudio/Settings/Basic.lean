import LedStudio.Settings.Load
import LedStudio.Sketch.Basic

/-!
# Settings by name

What the sections of loaded settings mean: the strip, the pattern, the wiring, the clock, the web
interface and the log.
-/

namespace LedStudio

/-- Settings as they were loaded. -/
structure Settings where
  data : Entries := Settings.builtIn

namespace Settings

/-- What stands under a name in a map. -/
def item (name : String) : Value → Outcome Value
  | .map entries =>
    match Entries.field? entries name with
    | some v => .ok v
    | none => .error (.missingKey (.text name))
  | v => .error (.notKeyed v.kind)

/-- A setting of a section. -/
def setting (s : Settings) (area key : String) : Outcome Value :=
  (item area (.map s.data)).bind (item key)

def strip (s : Settings) : Outcome StripConfig := do
  StripConfig.clamped (← s.setting "strip" "led_count") (← s.setting "strip" "brightness")
    (← s.setting "strip" "speed")

/-- The pattern to begin with, and what the log says if none has the name that was given. -/
def pattern (s : Settings) : Outcome (PatternId × Log) := do
  let name ← (← s.setting "strip" "pattern").written
  match PatternId.ofText? name with
  | some p => return (p, [])
  | none =>
    return (.rainbow,
      [record .warn ("Unknown default pattern '" ++ name ++ "', using rainbow") []])

/-- A setting as a text. -/
def asText (v : Value) : Outcome Value :=
  match v with
  | .brokenText points => .ok (.brokenText points)
  | v => v.written.map .text

def wiring (s : Settings) : Outcome Wiring := do
  let pin ← (← s.setting "firmware" "led_pin").toInt
  return ⟨.int pin, ← asText (← s.setting "firmware" "led_type"),
    ← asText (← s.setting "firmware" "color_order")⟩

def minInterval (s : Settings) : Outcome Int := do (← s.setting "clock" "min_interval_ms").toInt

def host (s : Settings) : Outcome String := do (← s.setting "api" "host").written

def port (s : Settings) : Outcome Int := do (← s.setting "api" "port").toInt

/-- The least level that is logged; a name that is no level counts as INFO. -/
def logLevel (s : Settings) : Outcome LogLevel := do
  let name ← (← s.setting "logging" "level").written
  return ((LogLevel.choice.find? name).map (·.item)).getD .info

def colors (s : Settings) : Outcome Bool :=
  (s.setting "logging" "use_colors").map Value.isTruthy

/-- Loads settings in place of those that there are, and says so. What was loaded stays even if its
sections cannot be written into the log. -/
def reload (source : Source) (main factory : String) (s : Settings) :
    Outcome Unit × Settings × Log :=
  match load source main factory with
  | (.error f, log) => (.error f, s, log)
  | (.ok data, log) =>
    match loadedRecord data with
    | .ok r => (.ok (), ⟨data⟩, log ++ [r])
    | .error f => (.error f, ⟨data⟩, log)

end Settings
end LedStudio
