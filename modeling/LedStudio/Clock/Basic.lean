import LedStudio.Action
import LedStudio.Log
import LedStudio.Strip

/-!
# The clock

The clock counts frames. While it runs, one tick is pending, due after the interval, which is a
hundred milliseconds less the speed and never below a least interval. Time is not kept: all that
counts is how long it is until the pending tick is due.
-/

namespace LedStudio

/-- What ticks. A cadence that was started waits for the event loop to begin it; then it sleeps
until its next tick is due, ticks, and sleeps again. -/
inductive Cadence where
  /-- Nothing ticks. -/
  | idle
  /-- Started, and not begun. -/
  | fresh
  /-- The next tick is due in `left` milliseconds; `ticks` were made before. -/
  | asleep (left : Nat) (left_pos : 0 < left) (ticks : Nat)
  /-- A tick is being made; `ticks` were made before. -/
  | ticking (ticks : Nat)
  /-- The interval is too long to sleep for, so no tick will come. -/
  | stalled
  deriving DecidableEq, Repr

namespace Cadence

/-- The ticks to report when the cadence is cancelled, the one in progress included. A cadence
that never slept reports none. -/
def report : Cadence → List Nat
  | asleep _ _ ticks => [ticks]
  | ticking ticks => [ticks + 1]
  | _ => []

/-- The milliseconds until the pending tick. -/
def due? : Cadence → Option Nat
  | asleep left _ _ => some left
  | _ => none

end Cadence

structure Clock where
  speed : Int
  minInterval : Nat
  minInterval_pos : 0 < minInterval
  frame : Nat := 0
  cadence : Cadence := .idle
  /-- The ticks of the cadences that were cancelled since the event loop last ran. -/
  cancelled : List Nat := []
  /-- There is an event loop to run a cadence. -/
  hasLoop : Bool := true
  deriving Repr

/-- Whether a clock runs, as it is shown to users. -/
inductive ClockState where
  | idle | running
  deriving DecidableEq, Repr

namespace ClockState

def all : List ClockState := [idle, running]

def name : ClockState → String
  | idle => "IDLE"
  | running => "RUNNING"

def choice : Choice ClockState :=
  ⟨"ClockState", all.mapIdx fun i s => ⟨s.name, .int (i + 1), s⟩⟩

end ClockState

namespace Clock

/-- The least interval, at least a millisecond. -/
def leastInterval (n : Int) : { n : Nat // 0 < n } := ⟨(max 1 n).toNat, by omega⟩

/-- A clock at frame zero that does not run. -/
def create (hasLoop : Bool) (speed minInterval : Value) : Outcome Clock := do
  let least := leastInterval (← minInterval.toInt)
  let speed ← clampSpeed speed
  return { speed, minInterval := least.1, minInterval_pos := least.2, hasLoop }

/-- The milliseconds from one tick to the next. -/
def interval (c : Clock) : Nat := max c.minInterval (100 - c.speed).toNat

theorem interval_pos (c : Clock) : 0 < c.interval :=
  Nat.lt_of_lt_of_le c.minInterval_pos (Nat.le_max_left _ _)

/-- The interval in seconds. -/
def seconds (c : Clock) : Outcome Double := Double.quotient c.interval 1000

def isRunning (c : Clock) : Bool := c.cadence != .idle

def state (c : Clock) : ClockState := if c.isRunning then .running else .idle

def stateName (c : Clock) : String := c.state.name

/-- Cancels what ticks. -/
def cancel (c : Clock) : Clock :=
  { c with cadence := .idle, cancelled := c.cancelled ++ c.cadence.report }

/-- Goes to sleep until the next tick, if the interval in seconds is a number at all. -/
def sleep (c : Clock) (ticks : Nat) : Clock :=
  { c with
    cadence :=
      match c.seconds with
      | .ok _ => .asleep c.interval c.interval_pos ticks
      | .error _ => .stalled }

/-- Goes back to sleep after a tick, unless the tick's own callback cancelled the cadence. -/
def resume (c : Clock) (ticks : Nat) : Clock :=
  match c.cadence with
  | .ticking _ => c.sleep (ticks + 1)
  | _ => c

/-- Begins a cadence that was started. -/
def beginFresh (c : Clock) : Clock :=
  match c.cadence with
  | .fresh => c.sleep 0
  | _ => c

end Clock
end LedStudio
