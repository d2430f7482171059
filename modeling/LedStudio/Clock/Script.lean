import LedStudio.Clock.Timed

/-!
# Scripted callbacks

A callback that keeps the frames it was given and may work on the clock that called it. A script is
a list of operations, each to be carried out once, at the first call with its frame; an operation
is struck off before it is carried out, so a script comes to its end however its operations nest.
-/

namespace LedStudio

/-- An operation on a clock. -/
inductive ClockOp where
  | start | stop | reset | tick
  | setSpeed (speed : Value)
  deriving Repr

namespace ClockOp

/-- Carries out an operation; a tick gives its frame. -/
def perform (callback : Timed.Callback α) : ClockOp → Action (Timed α) (Option Nat)
  | start => do Timed.start; return none
  | stop => do Timed.stop; return none
  | reset => do Timed.reset callback; return none
  | setSpeed v => do Timed.setSpeed v; return none
  | tick => do return some (← Timed.tick callback)

end ClockOp

/-- An operation that waits for a frame. -/
structure ClockAct where
  frame : Int
  op : ClockOp

/-- What a callback does once it has kept the frame. -/
inductive Script where
  /-- There is no callback; nothing is kept either. -/
  | absent
  | failing
  | acts (waiting : List ClockAct)

/-- A script and the frames that it was given. -/
structure Scripted where
  script : Script
  emitted : List Nat := []

namespace Scripted

/-- The first act that waits for a frame, and the acts without it. -/
def nextAct (frame : Nat) : List ClockAct → Option (ClockAct × List ClockAct)
  | [] => none
  | act :: rest =>
    if act.frame = frame then some (act, rest)
    else (nextAct frame rest).map fun (found, others) => (found, act :: others)

/-- The acts that wait. -/
def waiting : Script → List ClockAct
  | .acts waiting => waiting
  | _ => []

/-- Keeps the frame of a call, and fails if the script says so. -/
def heard : Action (Timed Scripted) Unit := fun s =>
  match s.body.script with
  | .absent => (.ok (), s)
  | .failing =>
    (.error (.raised "boom"),
      { s with body := { s.body with emitted := s.body.emitted ++ [s.clock.frame] } })
  | .acts _ =>
    (.ok (), { s with body := { s.body with emitted := s.body.emitted ++ [s.clock.frame] } })

/-- Strikes off the first act for a frame. -/
def strike (frame : Nat) : Action (Timed Scripted) (Option ClockOp) := fun s =>
  match nextAct frame (waiting s.body.script) with
  | none => (.ok none, s)
  | some (act, rest) => (.ok (some act.op), { s with body := { s.body with script := .acts rest } })

/-- Carries out the acts for a frame, one after the other; an act may call the callback again.
The number of acts that wait is fuel enough, as each is struck off once. -/
def act : (fuel : Nat) → (frame : Nat) → Action (Timed Scripted) Unit
  | 0, _ => pure ()
  | fuel + 1, frame => do
    match ← strike frame with
    | none => return ()
    | some op =>
      let again : Action (Timed Scripted) Unit := do
        heard
        let s ← Action.get
        act fuel s.clock.frame
      let _ ← op.perform again
      act fuel frame

/-- The callback that follows the script. -/
def callback : Action (Timed Scripted) Unit := do
  heard
  let s ← Action.get
  act (waiting s.body.script).length s.clock.frame

/-- An operation by a caller, or time that passes. -/
inductive Step where
  | op (op : ClockOp)
  | advance (ms : Nat)

/-- A step, after which the event loop runs. -/
def step (s : Timed Scripted) : Step → Outcome (Option Nat) × Timed Scripted
  | .op op => ((op.perform callback s).1, (op.perform callback s).2.settle)
  | .advance ms => (.ok none, s.advance callback ms)

end Scripted
end LedStudio
