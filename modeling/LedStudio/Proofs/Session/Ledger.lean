import LedStudio.Proofs.Clock.Parallel
import LedStudio.Proofs.Session.Basic

/-!
# Sessions with a ledger

A ledger stands beside a session and takes down every operation, by a caller or by a listener, every
tick that falls due and every rendering, each with what goes on in the course of it. Keeping it
changes nothing: without its ledger the session goes the way it goes alone.

* `step`, `steps` — steps of a session with a ledger.
* `forget_steps` — without the ledger, they are the session's own.
-/

namespace LedStudio

/-- Something that went on in a session, and what went on in the course of it. -/
inductive Deed where
  /-- An operation: whether the clock ran before it, and whether it returned normally. -/
  | operation (op : SessionOp) (running returned : Bool) (parts : List Deed)
  /-- A tick of the clock that fell due. -/
  | tick (parts : List Deed)
  /-- A rendering of the session as it was, and what the listeners did when they were told. -/
  | rendering (s : SessionState) (told : List Deed)

/-- A session, and what went on in it. -/
structure Ledger where
  session : Session
  deeds : List Deed := []

namespace Ledger

/-- A step on a session with a ledger. -/
abbrev Move (β : Type) := Action (Timed Ledger) β

variable {β : Type}

/-- The session without its ledger. -/
def forget (l : Timed Ledger) : SessionState := ⟨l.clock, l.log, l.body.session⟩

/-- Does something to the session that is not to be entered. -/
def plain (a : SessionAction β) : Move β := fun l =>
  let done := a (forget l)
  (done.1, ⟨done.2.clock, done.2.log, { l.body with session := done.2.body }⟩)

/-- Does something and enters it, with what is entered in the course of it. -/
def within (entry : Outcome β → List Deed → Deed) (a : Move β) : Move β := fun l =>
  let done := a { l with body := { l.body with deeds := [] } }
  (done.1, { done.2 with body :=
    { done.2.body with deeds := l.body.deeds ++ [entry done.1 done.2.body.deeds] } })

/-! ## Operations -/

/-- Draws the picture, and then tells the listeners by `tell`. -/
def draw (tell : Move Unit) : Move Unit := do
  plain (Session.render (pure ()))
  tell

/-- Draws the picture and enters a rendering. -/
def render (tell : Move Unit) : Move Unit := fun l =>
  within (fun _ told => .rendering (forget l) told) (draw tell) l

def renderIfRunning (tell : Move Unit) : Move Unit := do
  if (← Timed.getClock).isRunning then render tell

/-- What is done to a session as if its clock did not run. -/
def resting (a : SessionAction β) : SessionAction β := fun s =>
  let done := a { s with clock := { s.clock with cadence := .idle } }
  (done.1, { done.2 with clock := s.clock })

/-- An operation that changes something, and then renders if the clock runs. -/
def change (tell : Move Unit) (op : SessionOp) : Move SessionResult := do
  let result ← plain (resting (op.perform (pure ())))
  renderIfRunning tell
  return result

def play (tell : Move Unit) : Move SessionResult := do
  plain Timed.start
  render tell
  return .code (← plain Session.generateCode)

/-- Enters an operation that is carried out by `a`. -/
def operation (op : SessionOp) (a : Move SessionResult) : Move SessionResult := fun l =>
  within (fun result parts => .operation op l.clock.isRunning result.isOk parts) a l

/-- The operations in a prompt are entered too. -/
def applyPrompt (tell : Move Unit) (prompt : Value) : Move SessionResult := do
  let pattern ← plain (Action.lift (suggest keywordTable fallbackPattern prompt))
  plain (Session.info "Prompt matched pattern" [detail "pattern" pattern.name])
  let _ ← operation (.setPattern (.id pattern)) (change tell (.setPattern (.id pattern)))
  let _ ← operation .play (play tell)
  return .pattern pattern

/-- Carries out an operation. One that does not render is the session's own. -/
def perform (tell : Move Unit) : SessionOp → Move SessionResult
  | .reset => do Timed.reset (render tell); return .nothing
  | .step => do return .frame (← Timed.tick (render tell))
  | .render => do render tell; return .nothing
  | .play => play tell
  | .setLedCount v => change tell (.setLedCount v)
  | .setPattern ref => change tell (.setPattern ref)
  | .setBrightness v => change tell (.setBrightness v)
  | .applyPrompt v => applyPrompt tell v
  | op => plain (op.perform (pure ()))

/-! ## Listeners -/

def performAll (tell : Move Unit) : List SessionOp → Move Unit
  | [] => pure ()
  | op :: rest => do
    let _ ← operation op (perform tell op)
    performAll tell rest

def call (tell : Move Unit) (id : String) : Move Unit := do
  plain (Session.hear id)
  let s ← plain Action.get
  match s.body.mannerOf id with
  | .listen => return ()
  | .fail => Action.fail (.raised "boom")
  | .act frame ops =>
    if frame.all (fun due : Int => due = s.clock.frame) then
      plain (Session.modify (Session.retire id))
      performAll tell ops

def serve (tell : Move Unit) : List String → Move Unit
  | [] => pure ()
  | id :: rest => do
    match ← Action.attempt (call tell id) with
    | .ok _ => pure ()
    | .error f =>
      plain (Timed.note ⟨.session, .error, "Frame listener failed: " ++ f.message,
        [detail "listener" id]⟩)
    serve tell rest

def notifyAll : (fuel : Nat) → Move Unit
  | 0 => do serve (pure ()) (← plain Session.get).subscribers
  | fuel + 1 => do serve (notifyAll fuel) (← plain Session.get).subscribers

/-! ## Steps -/

/-- An operation by a caller, after which the event loop runs. -/
def run (l : Timed Ledger) (op : SessionOp) : Timed Ledger :=
  (operation op (perform (notifyAll (l.body.session.actors + op.actors)) op) l).2.settle

/-- Makes the tick that falls due and enters it. -/
def fire (callback : Move Unit) (ticks : Nat) (l : Timed Ledger) : Timed Ledger :=
  (within (fun _ parts => .tick parts) (Action.modify (Timed.fire callback ticks)) l).2

/-- Lets time pass as `Timed.advance` does. -/
def advance (callback : Move Unit) (ms : Nat) (l : Timed Ledger) : Timed Ledger :=
  match l.clock.cadence with
  | .asleep left _ ticks =>
    if h : left ≤ ms then advance callback (ms - left) (fire callback ticks l)
    else
      { l with clock := { l.clock with cadence := .asleep (left - ms) (Timed.rest_pos h) ticks } }
  | _ => l
termination_by ms

def step (l : Timed Ledger) : SessionStep → Timed Ledger
  | .op op => run l op
  | .elapse ms => advance (render (notifyAll (l.body.session.actors + 0))) ms l

def steps (l : Timed Ledger) (todo : List SessionStep) : Timed Ledger := todo.foldl step l

/-- A session with an empty ledger. -/
def opened (s : SessionState) : Timed Ledger := ⟨s.clock, s.log, { session := s.body }⟩

/-! ## The ledger changes nothing -/

/-- What the session is without its ledger. -/
def Mirrors (l : Timed Ledger) (s : SessionState) : Prop := s = forget l

open LedStudio.Action (Agree)

theorem parallel : Timed.Parallel Mirrors where
  clock := by
    rintro l _ rfl
    rfl
  turn := by
    rintro l _ rfl c log
    rfl

theorem plain_agree (a : SessionAction β) : Agree Mirrors (plain a) a := by
  rintro l _ rfl
  exact ⟨rfl, rfl⟩

theorem within_agree {entry : Outcome β → List Deed → Deed} {a : Move β} {b : SessionAction β}
    (h : Agree Mirrors a b) : Agree Mirrors (within entry a) b := by
  rintro l _ rfl
  exact h { l with body := { l.body with deeds := [] } } _ rfl

variable {tell : Move Unit} {notify : SessionAction Unit}

theorem render_agree (h : Agree Mirrors tell notify) :
    Agree Mirrors (render tell) (Session.render notify) := by
  have hsplit : Session.render notify = (do Session.render (pure ()); notify) := by
    funext s
    have hquiet := Session.render_eq (pure ()) s
    show Session.render notify s = Action.andThen (Session.render (pure ())) (fun _ => notify) s
    rw [Session.render_eq]
    cases hleds : s.picture.leds with
    | error f =>
      rw [hleds] at hquiet
      rw [Action.andThen_error hquiet]
    | ok leds =>
      rw [hleds] at hquiet
      rw [Action.andThen_ok hquiet]
  rw [hsplit]
  intro l s hls
  exact within_agree ((plain_agree _).bind fun _ => h) l s hls

theorem renderIfRunning_agree (h : Agree Mirrors tell notify) :
    Agree Mirrors (renderIfRunning tell) (Session.renderIfRunning notify) := by
  refine .bind (fun l s hls => ⟨congrArg Except.ok (parallel.clock hls), hls⟩) fun c => ?_
  split
  · exact render_agree h
  · exact .pure ()

/-- A setter does what it does as if the clock did not run, and then renders if it runs. -/
def Splits (set : SessionAction Unit → SessionAction Unit) : Prop :=
  ∀ notify, set notify = (do resting (set (pure ())); Session.renderIfRunning notify)

theorem setLedCount_splits (v : Value) : Splits (Session.setLedCount · v) := by
  intro notify
  funext s
  show _ = Action.andThen (resting (Session.setLedCount (pure ()) v))
    (fun _ => Session.renderIfRunning notify) s
  simp only [Action.andThen, resting, Session.setLedCount_eq]
  cases s.body.config.withLedCount v with
  | error f => rfl
  | ok config =>
    dsimp only
    cases blankLeds config.ledCount with
    | error f => rfl
    | ok leds => rfl

theorem setPattern_splits (ref : PatternRef) : Splits (Session.setPattern · ref) := by
  intro notify
  funext s
  show _ = Action.andThen (resting (Session.setPattern (pure ()) ref))
    (fun _ => Session.renderIfRunning notify) s
  simp only [Action.andThen, resting, Session.setPattern, Session.get, bind, Session.modify,
    Action.modify]
  split <;> rfl

theorem setBrightness_splits (v : Value) : Splits (Session.setBrightness · v) := by
  intro notify
  funext s
  show _ = Action.andThen (resting (Session.setBrightness (pure ()) v))
    (fun _ => Session.renderIfRunning notify) s
  simp only [Action.andThen, resting, Session.setBrightness_eq]
  cases s.body.config.withBrightness v with
  | error f => rfl
  | ok config => rfl

theorem change_agree {set : SessionAction Unit → SessionAction Unit} (hset : Splits set)
    {op : SessionOp}
    (hop : ∀ notify, op.perform notify = do set notify; return SessionResult.nothing)
    (h : Agree Mirrors tell notify) : Agree Mirrors (change tell op) (op.perform notify) := by
  have hresting : resting (op.perform (pure ())) =
      (do resting (set (pure ())); return SessionResult.nothing) := by
    funext s
    rw [hop]
    show resting (Action.andThen (set (pure ())) fun _ => pure SessionResult.nothing) s =
      Action.andThen (resting (set (pure ()))) (fun _ => pure SessionResult.nothing) s
    simp only [resting, Action.andThen]
    generalize set (pure ()) _ = done
    rcases done with ⟨_ | _, t⟩ <;> rfl
  have hsplit : op.perform notify = (do
      let result ← resting (op.perform (pure ()))
      Session.renderIfRunning notify
      return result) := by
    rw [hresting, Action.bind_assoc, hop, hset, Action.bind_assoc]
    rfl
  rw [hsplit]
  exact (plain_agree _).bind fun _ => .bind (renderIfRunning_agree h) fun _ => .pure _

theorem play_agree (h : Agree Mirrors tell notify) :
    Agree Mirrors (play tell) (SessionOp.play.perform notify) := by
  have hplay : SessionOp.play.perform notify = (do
      Timed.start
      Session.render notify
      return .code (← Session.generateCode)) := by
    simp only [SessionOp.perform, Session.play, Action.bind_assoc]
  rw [hplay]
  exact (plain_agree _).bind fun _ => .bind (render_agree h) fun _ =>
    .bind (plain_agree _) fun _ => .pure _

/-- What a prompt suggests is selected and then played. -/
theorem applyPrompt_splits (v : Value) : (SessionOp.applyPrompt v).perform notify = (do
    let pattern ← Action.lift (suggest keywordTable fallbackPattern v)
    Session.info "Prompt matched pattern" [detail "pattern" pattern.name]
    let _ ← (SessionOp.setPattern (.id pattern)).perform notify
    let _ ← SessionOp.play.perform notify
    return .pattern pattern) := by
  simp only [SessionOp.perform, Session.applyPrompt, Action.bind_assoc]
  rfl

theorem operation_agree {op : SessionOp} {a : Move SessionResult} {b : SessionAction SessionResult}
    (h : Agree Mirrors a b) : Agree Mirrors (operation op a) b :=
  fun l s hls => within_agree h l s hls

theorem perform_agree (h : Agree Mirrors tell notify) (op : SessionOp) :
    Agree Mirrors (perform tell op) (op.perform notify) := by
  cases op with
  | reset => exact (parallel.abreast.reset (render_agree h)).bind fun _ => .pure _
  | step => exact (parallel.abreast.tick (render_agree h)).bind fun _ => .pure _
  | render => exact (render_agree h).bind fun _ => .pure _
  | play => exact play_agree h
  | setLedCount v => exact change_agree (setLedCount_splits v) (fun _ => rfl) h
  | setPattern ref => exact change_agree (setPattern_splits ref) (fun _ => rfl) h
  | setBrightness v => exact change_agree (setBrightness_splits v) (fun _ => rfl) h
  | applyPrompt v =>
    rw [applyPrompt_splits]
    refine (plain_agree _).bind fun pattern => .bind (plain_agree _) fun _ => ?_
    refine .bind (operation_agree ?_) fun _ =>
      .bind (operation_agree (play_agree h)) fun _ => .pure _
    exact change_agree (setPattern_splits _) (fun _ => rfl) h
  | start => exact plain_agree _
  | stop => exact plain_agree _
  | generateCode => exact plain_agree _
  | setSpeed v => exact plain_agree _
  | subscribe id manner => exact plain_agree _
  | unsubscribe id manner => exact plain_agree _

/-! Listeners -/

theorem performAll_agree (h : Agree Mirrors tell notify) (ops : List SessionOp) :
    Agree Mirrors (performAll tell ops) (Session.performAll notify ops) := by
  induction ops with
  | nil => exact .pure ()
  | cons op rest ih => exact (operation_agree (perform_agree h op)).bind fun _ => ih

theorem call_agree (h : Agree Mirrors tell notify) (id : String) :
    Agree Mirrors (call tell id) (Session.call notify id) := by
  refine (plain_agree _).bind fun _ => (plain_agree Action.get).bind fun s => ?_
  cases s.body.mannerOf id with
  | listen => exact .pure ()
  | fail => exact .fail _
  | act frame ops =>
    dsimp only
    split
    · exact (plain_agree _).bind fun _ => performAll_agree h ops
    · exact .pure ()

theorem serve_agree (h : Agree Mirrors tell notify) (ids : List String) :
    Agree Mirrors (serve tell ids) (Session.serve notify ids) := by
  induction ids with
  | nil => exact .pure ()
  | cons id rest ih =>
    refine .bind (call_agree h id).attempt fun result => ?_
    cases result with
    | ok _ => exact ih
    | error f => exact (plain_agree _).bind fun _ => ih

theorem notifyAll_agree (fuel : Nat) :
    Agree Mirrors (notifyAll fuel) (Session.notifyAll fuel) := by
  induction fuel with
  | zero => exact (plain_agree _).bind fun b => serve_agree (.pure ()) b.subscribers
  | succ fuel ih => exact (plain_agree _).bind fun b => serve_agree ih b.subscribers

/-! Steps -/

theorem fire_forget {callback : Move Unit} {other : SessionAction Unit}
    (h : Agree Mirrors callback other) (ticks : Nat) (l : Timed Ledger) :
    Timed.fire other ticks (forget l) = forget (fire callback ticks l) := by
  let bare : Timed Ledger := { l with body := { l.body with deeds := [] } }
  have hfire : forget (fire callback ticks l) = forget (Timed.fire callback ticks bare) := by
    unfold fire within Action.modify
    rfl
  rw [hfire]
  exact parallel.fire h ticks (s := bare) rfl

theorem advance_forget {callback : Move Unit} {other : SessionAction Unit}
    (h : Agree Mirrors callback other) (ms : Nat) (l : Timed Ledger) :
    Timed.advance other ms (forget l) = forget (advance callback ms l) := by
  fun_induction advance callback ms l with
  | case1 ms l left pos ticks hc hle ih =>
    rw [Timed.advance_due other (s := forget l) hc hle, ← ih, fire_forget h]
  | case2 ms l left pos ticks hc hlt =>
    rw [Timed.advance_early other (s := forget l) hc hlt]
    rfl
  | case3 ms l hc =>
    rw [Timed.advance_idle other ms (s := forget l) (Cadence.due?_eq_none hc)]

theorem step_forget (l : Timed Ledger) (todo : SessionStep) :
    ((forget l).step todo).2 = forget (step l todo) := by
  cases todo with
  | op op =>
    have hperform : Agree Mirrors
        (operation op (perform (notifyAll (l.body.session.actors + op.actors)) op))
        (op.perform (Session.notifyAll (l.body.session.actors + op.actors))) :=
      operation_agree (perform_agree (notifyAll_agree _) op)
    exact parallel.abreast.settle (hperform l (forget l) rfl).2
  | elapse ms => exact advance_forget (render_agree (notifyAll_agree _)) ms l

/-- **Without its ledger, the session goes the way it goes alone.** -/
theorem forget_steps (l : Timed Ledger) (todo : List SessionStep) :
    (forget l).steps todo = forget (steps l todo) := by
  induction todo generalizing l with
  | nil => rfl
  | cons first rest ih =>
    show SessionState.steps ((forget l).step first).2 rest = forget (steps (step l first) rest)
    rw [step_forget, ih]

end Ledger
end LedStudio
