import LedStudio.Session.Operation

/-!
# Listeners

At each rendering every subscription that was there when it began is served, in order. A listener
that fails leaves a record in the log; the others are served all the same. A listener that carries
out operations is struck off as an actor before it does, so calls within calls come to an end.
-/

namespace LedStudio

namespace Session

/-- The manner of a listener. -/
def mannerOf (b : Session) (id : String) : Manner :=
  ((b.listeners.find? (·.1 = id)).map (·.2)).getD .listen

/-- A listener that has carried out its operations only listens from then on. -/
def retire (id : String) (b : Session) : Session :=
  { b with
    listeners := b.listeners.map fun entry => if entry.1 = id then (id, .listen) else entry }

/-- Keeps the call of a listener. -/
def hear (id : String) : SessionAction Unit :=
  Action.modify fun s =>
    { s with
      body := { s.body with heard := s.body.heard ++ [⟨id, s.clock.frame, s.body.leds⟩] } }

/-- Carries out operations one after the other. -/
def performAll (notify : SessionAction Unit) : List SessionOp → SessionAction Unit
  | [] => pure ()
  | op :: rest => do
    let _ ← op.perform notify
    performAll notify rest

/-- Calls a listener; its own operations tell the listeners by `notify`. -/
def call (notify : SessionAction Unit) (id : String) : SessionAction Unit := do
  hear id
  let s ← Action.get
  match s.body.mannerOf id with
  | .listen => return ()
  | .fail => Action.fail (.raised "boom")
  | .act frame ops =>
    if frame.all (fun due : Int => due = s.clock.frame) then
      modify (retire id)
      performAll notify ops

/-- Calls listeners in order and puts their failures into the log. -/
def serve (notify : SessionAction Unit) : List String → SessionAction Unit
  | [] => pure ()
  | id :: rest => do
    match ← Action.attempt (call notify id) with
    | .ok _ => pure ()
    | .error f =>
      Timed.note ⟨.session, .error, "Frame listener failed: " ++ f.message,
        [detail "listener" id]⟩
    serve notify rest

/-- Tells all subscribers of a new picture. With no fuel left they are told, and what they would
tell others is lost; the number of actors is fuel enough. -/
def notifyAll : (fuel : Nat) → SessionAction Unit
  | 0 => do serve (pure ()) (← get).subscribers
  | fuel + 1 => do serve (notifyAll fuel) (← get).subscribers

/-- The listeners that have operations to carry out. -/
def actors (b : Session) : Nat := b.listeners.foldr (fun entry n => entry.2.actors + n) 0

end Session

namespace SessionState

/-- Tells the subscribers, with fuel for every actor there is. -/
def notify (s : SessionState) (more : Nat) : SessionAction Unit :=
  Session.notifyAll (s.body.actors + more)

/-- Forgets what was logged and heard. -/
def clear (s : SessionState) : SessionState :=
  { s with log := [], body := { s.body with heard := [] } }

/-- Carries out an operation. -/
def perform (s : SessionState) (op : SessionOp) : Outcome SessionResult × SessionState :=
  op.perform (s.notify op.actors) s

/-- An operation, after which the event loop runs. -/
def run (s : SessionState) (op : SessionOp) : Outcome SessionResult × SessionState :=
  ((s.perform op).1, (s.perform op).2.settle)

/-- Lets time pass. -/
def elapse (s : SessionState) (ms : Nat) : SessionState :=
  s.advance (Session.render (s.notify 0)) ms

end SessionState
end LedStudio
