import LedStudio.Http.Visit
import LedStudio.Settings.Basic

/-!
# The studio

A run of the studio loads the settings, makes a session, puts it behind the web interface, and
serves until the server ends or a signal comes. However the server ends, the session is stopped and
taken away from the interface. A start that fails leaves what was done until then.
-/

namespace LedStudio

/-- A signal that asks the studio to end. -/
inductive Signal where
  | interrupt | terminate
  deriving DecidableEq, Repr

namespace Signal

def all : List Signal := [interrupt, terminate]

def name : Signal → String
  | interrupt => "SIGINT"
  | terminate => "SIGTERM"

end Signal

/-- How the studio serves. -/
structure ServerOptions where
  host : String
  port : Int
  logLevel : String := "info"
  eventLoop : String := "asyncio"
  accessLog : Bool := false
  deriving DecidableEq, Repr

/-- How serving comes to its end. -/
inductive Ending where
  /-- The server returns by itself. -/
  | returned
  | failed (f : Fault)
  /-- A signal comes while the server still serves. -/
  | signalled (s : Signal)

/-- Something that the studio waits for. -/
inductive Task where
  | unfinished
  | done
  | failed (f : Fault)
  | cancelled
  deriving Repr

namespace Task

/-- Cancels what is not finished. -/
def cancel : Task → Task
  | unfinished => cancelled
  | task => task

/-- Cancelling makes a difference. -/
def isUnfinished : Task → Bool
  | unfinished => true
  | _ => false

end Task

/-- What the studio is started with. -/
structure Launch where
  source : Source
  /-- The main document of the settings. -/
  main : String := "config.yaml"
  /-- The document that takes its place. -/
  factory : String := "factory_defaults.yaml"
  api : Http.Api
  stream : Stream
  /-- The platform tells of signals. -/
  hasSignals : Bool := true

structure Studio where
  settings : Settings := {}
  logger : Logger := {}
  /-- What was logged before the logger was set up. -/
  preface : Log := []
  log : Log := []
  /-- The session, once it is made. -/
  session : Option SessionState := none
  /-- The session stands behind the interface. -/
  isInstalled : Bool := false
  /-- How the server was set up, once there is one. -/
  options : Option ServerOptions := none
  server : Option Task := none
  /-- The wait for a signal. -/
  signalWait : Option Task := none

namespace Studio

/-- Adds a record of the studio itself to the log. -/
def note (level : LogLevel) (message : String) (details : List String := []) :
    Action Studio Unit :=
  Action.modify fun s => { s with log := s.log ++ [⟨.system, level, message, details⟩] }

def append (log : Log) : Action Studio Unit := Action.modify fun s => { s with log := s.log ++ log }

/-! ## Starting -/

/-- Loads the settings and sets the logger up as they say. -/
def loadSettings (launch : Launch) : Action Studio Unit := fun s =>
  let (loaded, settings, log) := s.settings.reload launch.source launch.main launch.factory
  let s := { s with settings, preface := s.preface ++ log }
  let logger : Outcome Logger := do
    loaded
    return ⟨← settings.logLevel, ← settings.colors⟩
  match logger with
  | .error f => (.error f, s)
  | .ok logger => (.ok (), { s with logger })

/-- The session that settings ask for. The strip is looked at first; then the log may tell of a
pattern that is not known. -/
def makeSession (settings : Settings) (stream : Stream) : Action Studio SessionState := do
  let config ← Action.lift settings.strip
  let (pattern, log) ← Action.lift settings.pattern
  append log
  let wiring ← Action.lift settings.wiring
  let minInterval ← Action.lift settings.minInterval
  let setup : SessionSetup :=
    { config, pattern := .id pattern, wiring, minInterval := .int minInterval, stream }
  Action.lift setup.create

/-- Renders a session for the first time. -/
def renderFirst (t : SessionState) : Action Studio SessionState := fun s =>
  match Session.render (t.notify 0) t with
  | (.ok _, t) => (.ok { t with log := [] }, { s with log := s.log ++ t.log })
  | (.error f, t) => (.error f, { s with log := s.log ++ t.log })

/-- Says what the session begins with. Its numbers are written only if the logger lets it pass. -/
def noteSession (t : SessionState) : Action Studio Unit := do
  if (← Action.get).logger.isEnabled .info then
    note .info "Preview session ready"
      [detail "pattern" t.body.pattern.name,
        detail "led_count" (← Action.lift t.body.config.ledCount.written),
        detail "interval_ms" (← Action.lift (writtenInt t.clock.interval))]

/-- Makes the session and puts it behind the interface. -/
def openSession (stream : Stream) : Action Studio Unit := do
  let t ← makeSession (← Action.get).settings stream
  let t ← renderFirst t
  noteSession t
  Action.modify fun s => { s with session := some t, isInstalled := true }
  note .info "Service container registered with API"

/-- Sets the server up. -/
def openServer (launch : Launch) : Action Studio ServerOptions := do
  append [← Action.lift launch.api.create]
  let settings := (← Action.get).settings
  let host ← Action.lift settings.host
  let port ← Action.lift settings.port
  let options : ServerOptions := { host, port }
  Action.modify fun s => { s with options := some options, server := some .unfinished }
  if !launch.hasSignals then
    append (Signal.all.map fun signal =>
      ⟨.system, .debug,
        "Signal handler for " ++ signal.name ++ " not supported on this platform", []⟩)
  return options

/-- Starts the studio, up to the moment when the server begins to answer. -/
def start (launch : Launch) : Action Studio Unit := do
  loadSettings launch
  note .info "Starting LED Pattern Studio..."
  openSession launch.stream
  let options ← openServer launch
  note .info "🏁 Application initialized. Waiting for exit signal..."
  Action.modify fun s => { s with signalWait := some .unfinished }
  note .debug ("🌐 Starting API server on " ++ options.host ++ ":" ++ toString options.port)

/-! ## Serving -/

/-- What the interface works on. -/
def desk (s : Studio) : Http.Desk := ⟨if s.isInstalled then s.session else none, s.log⟩

/-- Serves visits in order. -/
def serve (s : Studio) (api : Http.Api) (visits : List Http.Visit) : List Http.Reply × Studio :=
  let (replies, d) := api.serve s.desk visits
  (replies, { s with session := if s.isInstalled then d.session else s.session, log := d.log })

/-! ## Ending -/

/-- The end comes: the server or the wait for a signal is over. -/
def arrive : Ending → Studio → Studio
  | .returned, s => { s with server := some .done }
  | .failed f, s =>
    { s with
      server := some (.failed f)
      log := s.log ++ [⟨.system, .error, "API server failed: " ++ f.message, []⟩] }
  | .signalled signal, s =>
    { s with
      signalWait := some .done
      log := s.log ++
        [⟨.system, .info, "Signal " ++ signal.name ++ " received → triggering shutdown", []⟩] }

/-- Stops a session and lets the event loop run what is left of it. -/
def stopped (t : SessionState) : SessionState := (Timed.stop t).2.settle

/-- Stops the session and takes it away from the interface. -/
def close (s : Studio) : Studio :=
  match s.session.map stopped with
  | none => { s with isInstalled := false }
  | some t =>
    { s with session := some { t with log := [] }, isInstalled := false, log := s.log ++ t.log }

/-- Cancels what is not finished. A server that was cancelled says so. -/
def cancelTasks (s : Studio) : Studio :=
  { s with
    server := s.server.map Task.cancel
    signalWait := s.signalWait.map Task.cancel
    log := s.log ++
      if s.server.any Task.isUnfinished then
        [⟨.system, .debug, "🌐 API server cancelled (expected during shutdown)", []⟩]
      else [] }

/-- Ends the studio. -/
def finish (s : Studio) (ending : Ending) : Studio :=
  let s := (arrive ending s).close.cancelTasks
  { s with log := s.log ++ [⟨.system, .info, "👋 LED Pattern Studio shut down cleanly.", []⟩] }

/-! ## Running -/

/-- A run from its beginning to its end. -/
structure Run where
  studio : Studio
  replies : List Http.Reply := []
  outcome : Outcome Unit

/-- Starts a studio, serves visits, and ends it. -/
def run (launch : Launch) (visits : List Http.Visit) (ending : Ending) : Run :=
  match start launch {} with
  | (.error f, s) => { studio := s, outcome := .error f }
  | (.ok _, s) =>
    let (replies, s) := s.serve launch.api visits
    { studio := s.finish ending, replies, outcome := .ok () }

/-- The lines that a run prints. What was logged before the logger was set up was printed by the
logger that there was. -/
def printed (s : Studio) (time : String) : List String :=
  ({} : Logger).printed time s.preface ++ s.logger.printed time s.log

end Studio
end LedStudio
