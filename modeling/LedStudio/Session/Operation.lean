import LedStudio.Session.Basic

/-!
# Operations on a session

Each operation is given the action that tells the listeners of a new picture. A fault ends an
operation where it stands; only the ticks and the rewinding of the clock outlive a rendering that
fails.
-/

namespace LedStudio

namespace Session

/-- Computes the colours of the current frame and tells the listeners. The random numbers that were
read are spent even if a colour cannot be computed. -/
def render (notify : SessionAction Unit) : SessionAction Unit := do
  let s ← Action.get
  let picture := computeFrame s.body.pattern s.body.config.ledCount s.clock.frame
    s.body.config.brightness s.body.stream
  Action.modify fun s =>
    { s with log := s.log ++ picture.log, body := { s.body with stream := picture.stream } }
  let leds ← Action.lift picture.leds
  modify fun b => { b with leds }
  notify

/-- Renders if the clock runs. -/
def renderIfRunning (notify : SessionAction Unit) : SessionAction Unit := do
  if (← Timed.getClock).isRunning then render notify

def setLedCount (notify : SessionAction Unit) (count : Value) : SessionAction Unit := do
  let old ← get
  let config ← Action.lift (old.config.withLedCount count)
  modify fun b => { b with config }
  let leds ← Action.lift (blankLeds config.ledCount)
  modify fun b => { b with leds }
  info "LED count changed"
    [change "led_count" old.config.ledCount.display config.ledCount.display]
  renderIfRunning notify

def setPattern (notify : SessionAction Unit) (pattern : PatternRef) : SessionAction Unit := do
  let old ← get
  let new := pattern.normalize
  modify fun b => { b with pattern := new }
  if new.resolve.isNone then
    Timed.note ⟨.session, .warn,
      "Unknown pattern '" ++ new.name ++ "', preview falls back to solid white", []⟩
  info "Pattern changed" [change "pattern" old.pattern.name new.name]
  renderIfRunning notify

def setBrightness (notify : SessionAction Unit) (brightness : Value) : SessionAction Unit := do
  let config ← Action.lift ((← get).config.withBrightness brightness)
  modify fun b => { b with config }
  info "Brightness changed" [detail "brightness" config.brightness.display]
  renderIfRunning notify

/-- Sets the speed of the strip and of the clock; nothing is rendered. -/
def setSpeed (speed : Value) : SessionAction Unit := do
  let config ← Action.lift ((← get).config.withSpeed speed)
  modify fun b => { b with config }
  Timed.setSpeed config.speed
  info "Speed changed" [detail "speed" config.speed.display,
    detail "interval_ms" (toString (← Timed.getClock).interval)]

/-- Writes the sketch of the session and keeps it. -/
def generateCode : SessionAction String := do
  let s ← get
  let (code, log) ← Action.lift (Sketch.generate s.pattern s.config.ledCount
    s.config.brightness s.config.speed s.wiring)
  Action.modify fun t => { t with log := t.log ++ log, body := { t.body with code := some code } }
  info "Firmware code generated"
    [detail "pattern" s.pattern.name, detail "chars" (toString code.length)]
  return code

/-- Starts the clock, shows the current frame and writes the sketch. -/
def play (notify : SessionAction Unit) : SessionAction String := do
  Timed.start
  render notify
  generateCode

/-- Selects the pattern that a prompt suggests, and plays it. -/
def applyPrompt (notify : SessionAction Unit) (prompt : Value) : SessionAction PatternId := do
  let pattern ← Action.lift (suggest keywordTable fallbackPattern prompt)
  info "Prompt matched pattern" [detail "pattern" pattern.name]
  setPattern notify (.id pattern)
  let _ ← play notify
  return pattern

/-! ## Listeners -/

/-- The listener that an id means: the one that is known by it, or a new one. -/
def introduce (id : String) (manner : Manner) (b : Session) : Session :=
  if b.listeners.any (·.1 = id) then b else { b with listeners := b.listeners ++ [(id, manner)] }

def subscribe (id : String) (manner : Manner) : SessionAction Unit :=
  modify fun b =>
    let b := b.introduce id manner
    { b with subscribers := b.subscribers ++ [id] }

/-- Takes back the earliest subscription of a listener, if it has one. -/
def unsubscribe (id : String) (manner : Manner) : SessionAction Unit :=
  modify fun b =>
    let b := b.introduce id manner
    { b with subscribers := b.subscribers.erase id }

end Session

/-- What an operation gives. -/
inductive SessionResult where
  | nothing
  | frame (n : Nat)
  | code (text : String)
  | pattern (p : PatternId)
  deriving DecidableEq, Repr

/-- Carries out an operation. -/
def SessionOp.perform (notify : SessionAction Unit) : SessionOp → SessionAction SessionResult
  | .start => do Timed.start; return .nothing
  | .stop => do Timed.stop; return .nothing
  | .reset => do Timed.reset (Session.render notify); return .nothing
  | .step => do return .frame (← Timed.tick (Session.render notify))
  | .play => do return .code (← Session.play notify)
  | .render => do Session.render notify; return .nothing
  | .generateCode => do return .code (← Session.generateCode)
  | .setLedCount v => do Session.setLedCount notify v; return .nothing
  | .setPattern v => do Session.setPattern notify v; return .nothing
  | .setBrightness v => do Session.setBrightness notify v; return .nothing
  | .setSpeed v => do Session.setSpeed v; return .nothing
  | .applyPrompt v => do return .pattern (← Session.applyPrompt notify v)
  | .subscribe id manner => do Session.subscribe id manner; return .nothing
  | .unsubscribe id manner => do Session.unsubscribe id manner; return .nothing

end LedStudio
