import LedStudio.Proofs.Action
import LedStudio.Proofs.Clock.Basic
import LedStudio.Proofs.Strip
import LedStudio.Session.Listener

/-!
# Steps of a session

What rendering and the setters do, each in one equation, so that nothing else has to look inside
of them.
-/

namespace LedStudio

/-- The picture of what the session holds. -/
def SessionState.picture (s : SessionState) : Picture :=
  computeFrame s.body.pattern s.body.config.ledCount s.clock.frame s.body.config.brightness
    s.body.stream

/-- The session once the picture is computed, whether that succeeded or not. -/
def SessionState.spent (s : SessionState) : SessionState :=
  { s with log := s.log ++ s.picture.log, body := { s.body with stream := s.picture.stream } }

/-- The session once the call of a listener is kept. -/
def SessionState.heardBy (s : SessionState) (id : String) : SessionState :=
  { s with body := { s.body with heard := s.body.heard ++ [⟨id, s.clock.frame, s.body.leds⟩] } }

/-- The listener carries out operations if it is called now. -/
def SessionState.IsDue (s : SessionState) (id : String) : Prop :=
  ∃ frame ops, s.body.mannerOf id = .act frame ops ∧
    frame.all (fun due : Int => due = s.clock.frame) = true

instance (s : SessionState) (id : String) : Decidable (s.IsDue id) :=
  match h : s.body.mannerOf id with
  | .act frame ops =>
    decidable_of_iff (frame.all (fun due : Int => due = s.clock.frame) = true)
      ⟨fun hdue => ⟨frame, ops, h, hdue⟩, fun ⟨_, _, hact, hdue⟩ => by
        rw [h] at hact
        cases hact
        exact hdue⟩
  | .listen => .isFalse fun ⟨_, _, hact, _⟩ => by rw [h] at hact; cases hact
  | .fail => .isFalse fun ⟨_, _, hact, _⟩ => by rw [h] at hact; cases hact

/-- An operation by a caller, or time that passes. -/
inductive SessionStep where
  | op (op : SessionOp)
  | elapse (ms : Nat)

def SessionState.step (s : SessionState) : SessionStep → Outcome SessionResult × SessionState
  | .op op => s.run op
  | .elapse ms => (.ok .nothing, s.elapse ms)

/-- Steps one after the other, whether they fail or not. -/
def SessionState.steps (s : SessionState) (todo : List SessionStep) : SessionState :=
  todo.foldl (fun s step => (s.step step).2) s

/-- What a session that could be made consists of. -/
theorem SessionSetup.create_ok {setup : SessionSetup} {s : SessionState}
    (hs : setup.create = .ok s) : ∃ leds clock, blankLeds setup.config.ledCount = .ok leds ∧
      Clock.create setup.hasLoop setup.config.speed setup.minInterval = .ok clock ∧
      s = ⟨clock, [],
        { config := setup.config, pattern := setup.pattern.normalize, wiring := setup.wiring,
          stream := setup.stream, leds }⟩ := by
  cases hleds : blankLeds setup.config.ledCount with
  | error f => simp [create, hleds, bind, Except.bind] at hs
  | ok leds =>
    cases hclock : Clock.create setup.hasLoop setup.config.speed setup.minInterval with
    | error f => simp [create, hleds, hclock, bind, Except.bind] at hs
    | ok clock =>
      simp only [create, hleds, hclock, bind, Except.bind, pure, Except.pure, Except.ok.injEq] at hs
      exact ⟨leds, clock, rfl, rfl, hs.symm⟩

namespace Session

variable (notify : SessionAction Unit) (s : SessionState)

theorem render_eq : render notify s =
    match s.picture.leds with
    | .error f => (.error f, s.spent)
    | .ok leds => notify { s.spent with body := { s.spent.body with leds } } := by
  have hspent : s.spent = { s with
      log := s.log ++ s.picture.log
      body := { s.body with stream := s.picture.stream } } := rfl
  simp only [render, bind, Action.andThen, Action.get, Action.modify, Action.lift, modify]
  rw [hspent]
  unfold SessionState.picture
  split <;> simp_all only [Prod.mk.injEq]
  obtain ⟨-, rfl⟩ := ‹_ ∧ _›
  rfl

theorem renderIfRunning_eq : renderIfRunning notify s =
    if s.clock.isRunning then render notify s else (.ok (), s) := by
  simp only [renderIfRunning, bind, Action.andThen, Timed.getClock]
  split <;> rfl

theorem setLedCount_eq (v : Value) : setLedCount notify v s =
    match s.body.config.withLedCount v with
    | .error f => (.error f, s)
    | .ok config =>
      match blankLeds config.ledCount with
      | .error f => (.error f, { s with body := { s.body with config } })
      | .ok leds => renderIfRunning notify { s with
          log := s.log ++ [⟨.session, .info, "LED count changed",
            [change "led_count" s.body.config.ledCount.display config.ledCount.display]⟩]
          body := { s.body with config, leds } } := by
  simp only [setLedCount, bind, Action.andThen, get, Action.lift]
  cases s.body.config.withLedCount v with
  | error f => rfl
  | ok config =>
    simp only [modify, Action.modify]
    cases blankLeds config.ledCount <;> rfl

theorem setPattern_eq (ref : PatternRef) : ∃ log,
    setPattern notify ref s = renderIfRunning notify { s with
      log := s.log ++ log, body := { s.body with pattern := ref.normalize } } := by
  let warning : Log := if ref.normalize.resolve.isNone then [⟨.session, .warn,
    "Unknown pattern '" ++ ref.normalize.name ++ "', preview falls back to solid white", []⟩] else []
  refine ⟨warning ++ [⟨.session, .info, "Pattern changed",
    [change "pattern" s.body.pattern.name ref.normalize.name]⟩], ?_⟩
  by_cases h : ref.normalize.resolve.isNone = true
  · simp only [warning, if_pos h, ← List.append_assoc]
    simp only [setPattern, bind, Action.andThen, get, modify, Action.modify, if_pos h]
    rfl
  · simp only [warning, if_neg h, List.nil_append]
    simp only [setPattern, bind, Action.andThen, get, modify, Action.modify, if_neg h]
    rfl

theorem setBrightness_eq (v : Value) : setBrightness notify v s =
    match s.body.config.withBrightness v with
    | .error f => (.error f, s)
    | .ok config => renderIfRunning notify { s with
        log := s.log ++ [⟨.session, .info, "Brightness changed",
          [detail "brightness" config.brightness.display]⟩]
        body := { s.body with config } } := by
  simp only [setBrightness, bind, Action.andThen, get, Action.lift]
  cases s.body.config.withBrightness v <;> rfl

theorem setSpeed_eq {s : SessionState} {v : Value} {config : StripConfig}
    (hconfig : s.body.config.withSpeed v = .ok config) : setSpeed v s =
    Action.andThen (Timed.setSpeed config.speed) (fun _ =>
      Action.andThen Timed.getClock fun c => info "Speed changed"
        [detail "speed" config.speed.display, detail "interval_ms" (toString c.interval)])
      { s with body := { s.body with config } } := by
  simp only [setSpeed, bind, Action.andThen, get, Action.lift, hconfig]
  rfl

theorem setSpeed_state (v : Value) : ∃ log, (setSpeed v s).2 =
    match s.body.config.withSpeed v with
    | .error _ => s
    | .ok config => { s with
        clock := s.clock.after (.setSpeed config.speed)
        log := s.log ++ log
        body := { s.body with config } } := by
  cases hconfig : s.body.config.withSpeed v with
  | error f =>
    refine ⟨[], ?_⟩
    simp only [setSpeed, bind, Action.andThen, get, Action.lift, hconfig]
  | ok config =>
    let t : SessionState := { s with body := { s.body with config } }
    have hs := setSpeed_eq hconfig
    obtain ⟨log, hset⟩ := Timed.setSpeed_state config.speed t
    rcases h : Timed.setSpeed config.speed t with ⟨_ | _, u⟩
    · rw [hs, Action.andThen_error h]
      rw [h] at hset
      exact ⟨log, hset⟩
    · rw [hs, Action.andThen_ok h]
      rw [h] at hset
      change u = _ at hset
      subst hset
      refine ⟨log ++ [⟨.session, .info, "Speed changed", [detail "speed" config.speed.display,
        detail "interval_ms" (toString (s.clock.after (.setSpeed config.speed)).interval)]⟩], ?_⟩
      simp only [← List.append_assoc]
      rfl

/-- The speed is set as soon as it is clamped. -/
theorem setSpeed_ok {s : SessionState} {v : Value} {config : StripConfig}
    (hconfig : s.body.config.withSpeed v = .ok config) : (setSpeed v s).1 = .ok () := by
  obtain ⟨k, hk, hspeed⟩ := StripConfig.withSpeed_ok hconfig
  have hclamp : clampSpeed config.speed = .ok k := by
    rw [hspeed]
    exact clampSpeed_clamped hk
  let t : SessionState := { s with body := { s.body with config } }
  have hset := Timed.setSpeed_ok hclamp t
  rw [setSpeed_eq hconfig]
  rcases hrun : Timed.setSpeed config.speed t with ⟨_ | _, u⟩
  · rw [hrun] at hset
    cases hset
  · rw [Action.andThen_ok hrun]
    rfl

theorem generateCode_ok {code : String} {log : Log}
    (h : Sketch.generate s.body.pattern s.body.config.ledCount s.body.config.brightness
      s.body.config.speed s.body.wiring = .ok (code, log)) :
    ∃ log, generateCode s =
      (.ok code, { s with log := s.log ++ log, body := { s.body with code := some code } }) := by
  refine ⟨log ++ [⟨.session, .info, "Firmware code generated",
    [detail "pattern" s.body.pattern.name, detail "chars" (toString code.length)]⟩], ?_⟩
  simp only [generateCode, bind, Action.andThen, get, Action.lift, h, ← List.append_assoc]
  rfl

theorem generateCode_error {f : Fault}
    (h : Sketch.generate s.body.pattern s.body.config.ledCount s.body.config.brightness
      s.body.config.speed s.body.wiring = .error f) : generateCode s = (.error f, s) := by
  simp only [generateCode, bind, Action.andThen, get, Action.lift, h]

theorem generateCode_state : ∃ log code,
    (generateCode s).2 = { s with log := s.log ++ log, body := { s.body with code } } := by
  cases h : Sketch.generate s.body.pattern s.body.config.ledCount s.body.config.brightness
      s.body.config.speed s.body.wiring with
  | error f =>
    refine ⟨[], s.body.code, ?_⟩
    rw [generateCode_error s h, List.append_nil]
  | ok written =>
    obtain ⟨log, hcode⟩ := generateCode_ok s h
    exact ⟨log, some written.1, by rw [hcode]⟩

theorem introduce_eq (b : Session) (id : String) (manner : Manner) :
    ∃ listeners, b.introduce id manner = { b with listeners } := by
  unfold introduce
  split
  · exact ⟨b.listeners, rfl⟩
  · exact ⟨_, rfl⟩

theorem call_eq (id : String) : call notify id s =
    match s.body.mannerOf id with
    | .listen => (.ok (), s.heardBy id)
    | .fail => (.error (.raised "boom"), s.heardBy id)
    | .act frame ops =>
      if frame.all (fun due : Int => due = s.clock.frame) then
        Action.andThen (modify (retire id)) (fun _ => performAll notify ops) (s.heardBy id)
      else (.ok (), s.heardBy id) := by
  have hcall : call notify id s = (match s.body.mannerOf id with
      | .listen => return ()
      | .fail => Action.fail (.raised "boom")
      | .act frame ops => do
        if frame.all (fun due : Int => due = s.clock.frame) then
          modify (retire id)
          performAll notify ops : SessionAction Unit) (s.heardBy id) := rfl
  rw [hcall]
  cases s.body.mannerOf id with
  | listen => rfl
  | fail => rfl
  | act frame ops =>
    simp only
    by_cases hdue : (frame.all fun due : Int => due = s.clock.frame) = true
    · rw [if_pos hdue, if_pos hdue]
      rfl
    · rw [if_neg hdue, if_neg hdue]
      rfl

theorem serve_cons (id : String) (rest : List String) : serve notify (id :: rest) s =
    serve notify rest (match (call notify id s).1 with
      | .ok _ => (call notify id s).2
      | .error f => { (call notify id s).2 with
          log := (call notify id s).2.log ++ [⟨.session, .error,
            "Frame listener failed: " ++ f.message, [detail "listener" id]⟩] }) := by
  rcases hcall : call notify id s with ⟨f | u, t⟩
  · simp only [serve, bind, Action.andThen, Action.attempt, hcall]
    rfl
  · simp only [serve, bind, Action.andThen, Action.attempt, hcall]

theorem serve_result (ids : List String) : (serve notify ids s).1 = .ok () := by
  induction ids generalizing s with
  | nil => rfl
  | cons id rest ih =>
    rw [serve_cons]
    exact ih _

/-- Telling the listeners never fails, whatever they do. -/
theorem notifyAll_result (fuel : Nat) : (notifyAll fuel s).1 = .ok () := by
  cases fuel with
  | zero => exact serve_result (pure ()) s s.body.subscribers
  | succ fuel => exact serve_result (notifyAll fuel) s s.body.subscribers

/-! ## Listeners that only listen -/

variable {s}

theorem call_idle {id : String} (h : ¬s.IsDue id) : (call notify id s).2 = s.heardBy id := by
  rw [call_eq]
  cases hm : s.body.mannerOf id with
  | listen => rfl
  | fail => rfl
  | act frame ops =>
    have hdue : ¬(frame.all fun due : Int => due = s.clock.frame) = true := fun hdue =>
      h ⟨frame, ops, hm, hdue⟩
    simp only [if_neg hdue]

/-- Listeners with nothing to carry out leave no more than what they heard and what is logged of
them. -/
theorem serve_idle {ids : List String} (h : ∀ id ∈ ids, ¬s.IsDue id) : ∃ log heard,
    serve notify ids s =
      (.ok (), { s with log := s.log ++ log, body := { s.body with heard } }) ∧
    ∀ r ∈ log, r.category = .session := by
  induction ids generalizing s with
  | nil => exact ⟨[], s.body.heard, by simp only [List.append_nil]; rfl, by simp⟩
  | cons id rest ih =>
    obtain ⟨hid, hrest⟩ := List.forall_mem_cons.mp h
    rw [serve_cons, call_idle notify hid]
    cases (call notify id s).1 with
    | ok _ => exact ih (s := s.heardBy id) hrest
    | error f =>
      let failure : LogRecord := ⟨.session, .error, "Frame listener failed: " ++ f.message,
        [detail "listener" id]⟩
      obtain ⟨log, heard, hserve, hsession⟩ :=
        ih (s := { s.heardBy id with log := (s.heardBy id).log ++ [failure] }) hrest
      refine ⟨[failure] ++ log, heard, ?_, ?_⟩
      · rw [← List.append_assoc]
        exact hserve
      · simp only [List.singleton_append, List.forall_mem_cons]
        exact ⟨rfl, hsession⟩

theorem notifyAll_idle (fuel : Nat) (h : ∀ id ∈ s.body.subscribers, ¬s.IsDue id) : ∃ log heard,
    notifyAll fuel s =
      (.ok (), { s with log := s.log ++ log, body := { s.body with heard } }) ∧
    ∀ r ∈ log, r.category = .session := by
  cases fuel with
  | zero => exact serve_idle (pure ()) h
  | succ fuel => exact serve_idle (notifyAll fuel) h

end Session
end LedStudio
