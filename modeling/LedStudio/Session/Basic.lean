import LedStudio.Clock.Timed
import LedStudio.Pattern.Frame
import LedStudio.Prompt
import LedStudio.Sketch.Basic

/-!
# Preview sessions

A session holds the settings of a strip, the selected pattern, a clock, and what is derived from
them: the colours of the LEDs and the last sketch. Nothing is derived by itself: each operation
that has to show its effect renders. Whoever listens to a session is called at each rendering, and
may operate the session from there.
-/

namespace LedStudio

mutual
/-- An operation on a session. -/
inductive SessionOp where
  | start | stop | reset | step | play | render | generateCode
  | setLedCount (count : Value)
  | setPattern (pattern : PatternRef)
  | setBrightness (brightness : Value)
  | setSpeed (speed : Value)
  | applyPrompt (prompt : Value)
  | subscribe (id : String) (manner : Manner)
  | unsubscribe (id : String) (manner : Manner)

/-- What a listener does when it is called. -/
inductive Manner where
  /-- It only listens. -/
  | listen
  /-- It fails. -/
  | fail
  /-- It carries out operations, once, at its first call or at its first call with that frame. -/
  | act (frame : Option Int) (ops : List SessionOp)
end

instance : Inhabited SessionOp := ⟨.render⟩

instance : Inhabited Manner := ⟨.listen⟩

mutual
/-- The number of listeners that an operation can bring in and that carry out operations. -/
def SessionOp.actors : SessionOp → Nat
  | .subscribe _ m => m.actors
  | .unsubscribe _ m => m.actors
  | _ => 0

def Manner.actors : Manner → Nat
  | .act _ ops => 1 + SessionOp.actorsOf ops
  | _ => 0

def SessionOp.actorsOf : List SessionOp → Nat
  | [] => 0
  | op :: rest => op.actors + SessionOp.actorsOf rest
end

/-- A call of a listener: the frame and the colours it was called with. -/
structure Heard where
  id : String
  frame : Nat
  leds : List Color
  deriving DecidableEq, Repr

structure Session where
  config : StripConfig
  pattern : PatternRef
  wiring : Wiring
  stream : Stream
  leds : List Color
  code : Option String := none
  /-- The subscriptions in the order in which they were made; a listener may have several. -/
  subscribers : List String := []
  /-- The listeners that are known, subscribed or not. -/
  listeners : List (String × Manner) := []
  /-- The calls of listeners since the last step began. -/
  heard : List Heard := []

/-- A session with its clock and its log. -/
abbrev SessionState := Timed Session

/-- A step on a session. -/
abbrev SessionAction (β : Type) := Action SessionState β

/-- No strip has room for more LEDs. -/
def ledCapacity : Int := Nat.pow 2 32

/-- As many black LEDs as a number says. -/
def blackLeds (count : Int) : Outcome (List Color) :=
  if Nat.pow 2 63 ≤ count then .error .countBeyondIndex
  else if ledCapacity < count then .error .outOfMemory
  else .ok (List.replicate count.toNat Color.black)

/-- As many black LEDs as a strip has; a truth value counts as one or zero. -/
def blankLeds : Value → Outcome (List Color)
  | .int n => blackLeds n
  | .bool b => blackLeds (if b then 1 else 0)
  | v => .error (.notACount v.kind)

/-- What a session is made of. -/
structure SessionSetup where
  config : StripConfig := {}
  pattern : PatternRef := .id .rainbow
  wiring : Wiring := {}
  minInterval : Value := .int 1
  stream : Stream
  hasLoop : Bool := true

/-- A session that stands at frame zero with its LEDs black. -/
def SessionSetup.create (setup : SessionSetup) : Outcome SessionState := do
  let leds ← blankLeds setup.config.ledCount
  let clock ← Clock.create setup.hasLoop setup.config.speed setup.minInterval
  let session : Session :=
    { config := setup.config, pattern := setup.pattern.normalize, wiring := setup.wiring,
      stream := setup.stream, leds }
  return ⟨clock, [], session⟩

namespace Session

def get : SessionAction Session := fun s => (.ok s.body, s)

def modify (f : Session → Session) : SessionAction Unit :=
  Action.modify fun s => { s with body := f s.body }

/-- Adds a record of the session to the log. -/
def info (message : String) (details : List String) : SessionAction Unit :=
  Timed.note ⟨.session, .info, message, details⟩

end Session
end LedStudio
