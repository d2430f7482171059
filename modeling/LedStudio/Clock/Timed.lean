import LedStudio.Clock.Basic

/-!
# A clock at work

A clock is started, stopped, rewound, re-timed and ticked, by callers and by the passing of time.
Each tick and each rewinding calls the frame callback once; the callback works on the same state
and may itself operate the clock. A callback that fails leaves a record in the log and nothing
else.
-/

namespace LedStudio

/-- A clock, the log, and what the clock drives. -/
structure Timed (α : Type) where
  clock : Clock
  log : Log
  body : α

namespace Timed

variable {α : Type}

/-- A frame callback. -/
abbrev Callback (α : Type) := Action (Timed α) Unit

/-- Adds a record to the log. -/
def note (r : LogRecord) : Action (Timed α) Unit :=
  Action.modify fun s => { s with log := s.log ++ [r] }

def setClock (c : Clock) : Action (Timed α) Unit := Action.modify fun s => { s with clock := c }

def getClock : Action (Timed α) Clock := fun s => (.ok s.clock, s)

/-- Calls the frame callback. -/
def emit (callback : Callback α) : Action (Timed α) Unit := fun s =>
  match callback s with
  | (.ok _, s) => (.ok (), s)
  | (.error f, s) =>
    note ⟨.clock, .error,
      "Frame callback failed at frame " ++ toString s.clock.frame ++ ": " ++ f.message, []⟩ s

/-! ## Operations -/

/-- Starts the clock, if it does not run. -/
def start : Action (Timed α) Unit := do
  let c ← getClock
  if c.isRunning then return ()
  if !c.hasLoop then Action.fail .noEventLoop
  setClock { c with cadence := .fresh }
  note ⟨.clock, .info, "Clock started",
    [detail "frame" (toString c.frame), detail "interval_ms" (toString c.interval)]⟩

/-- Stops the clock and keeps the frame. -/
def stop : Action (Timed α) Unit := do
  let c ← getClock
  setClock c.cancel
  if c.isRunning then
    note ⟨.clock, .info, "Clock stopped", [detail "frame" (toString c.frame)]⟩

/-- Stops the clock, goes back to frame zero and shows it. -/
def reset (callback : Callback α) : Action (Timed α) Unit := do
  let c ← getClock
  setClock { c.cancel with frame := 0 }
  note ⟨.clock, .info, "Clock reset", []⟩
  emit callback

/-- Sets the speed. A pending tick is dropped for a new one, unless the speed is what it was. -/
def setSpeed (speed : Value) : Action (Timed α) Unit := do
  let new ← Action.lift (clampSpeed speed)
  let c ← getClock
  if new = c.speed then return ()
  let timed := if c.isRunning then { c.cancel with speed := new, cadence := .fresh }
    else { c with speed := new }
  setClock timed
  note ⟨.clock, .debug, "Clock speed changed",
    [detail "speed" (toString new),
      change "interval_ms" (toString c.interval) (toString timed.interval)]⟩

/-- Goes on by one frame and shows it; gives the frame that the clock then stands at. -/
def tick (callback : Callback α) : Action (Timed α) Nat := do
  let c ← getClock
  setClock { c with frame := c.frame + 1 }
  emit callback
  return (← getClock).frame

/-! ## Time -/

/-- Lets the event loop run: a started cadence begins, and cancelled ones are reported. -/
def settle (s : Timed α) : Timed α :=
  { s with
    clock := { s.clock.beginFresh with cancelled := [] }
    log := s.log ++ s.clock.cancelled.map fun ticks =>
      ⟨.clock, .debug, "Tick task cancelled after " ++ toString ticks ++ " ticks", []⟩ }

/-- Makes the tick of a cadence that has made `ticks` ticks before. -/
def fire (callback : Callback α) (ticks : Nat) (s : Timed α) : Timed α :=
  let s := (tick callback { s with clock := { s.clock with cadence := .ticking ticks } }).2
  settle { s with clock := s.clock.resume ticks }

/-- Something is left to sleep when less time passes than was left. -/
theorem rest_pos {left ms : Nat} (h : ¬left ≤ ms) : 0 < left - ms := by omega

/-- Lets `ms` milliseconds pass and makes every tick that falls due, each at its own time. -/
def advance (callback : Callback α) (ms : Nat) (s : Timed α) : Timed α :=
  match s.clock.cadence with
  | .asleep left _ ticks =>
    if h : left ≤ ms then advance callback (ms - left) (fire callback ticks s)
    else
      { s with clock := { s.clock with cadence := .asleep (left - ms) (rest_pos h) ticks } }
  | _ => s
termination_by ms

end Timed
end LedStudio
