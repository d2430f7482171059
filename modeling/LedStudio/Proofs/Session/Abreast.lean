import LedStudio.Proofs.Clock.Parallel
import LedStudio.Proofs.Session.Basic

/-!
# Two sessions side by side

Nothing that a session does hangs on what was logged or heard of it, or on which cancelled cadences
are still to be reported. Two sessions that are the same otherwise give the same results, whatever
is done with them and however much time passes, listeners that operate them included. What is to be
known of the two besides can be carried along, as long as changes of single fields keep it.

* `InStep.perform_agree` — an operation on two sessions, whoever is told of the renderings.
* `Attended.step`, `Attended.steps` — steps on two sessions side by side.
-/

namespace LedStudio

/-- A change of what a session holds that leaves the settings and does not hang on what was
heard. -/
structure Session.Aloof (f : Session → Session) : Prop where
  config : ∀ b, (f b).config = b.config
  heard : ∀ b heard, f { b with heard := heard } = { f b with heard := heard }

/-- A change that leaves the wiring, too. -/
structure Session.Fitting (f : Session → Session) : Prop extends Session.Aloof f where
  wiring : ∀ b, (f b).wiring = b.wiring

/-- A change that leaves the listeners that are known, too. -/
structure Session.Inward (f : Session → Session) : Prop extends Session.Fitting f where
  listeners : ∀ b, (f b).listeners = b.listeners

namespace SessionState

/-- Related sessions hold the same but for what is logged, heard and still to be reported, and they
stay related when single fields of both, other than the listeners, are changed in the same way. -/
structure InStep (R : SessionState → SessionState → Prop) : Prop where
  timed : Timed.Abreast R
  body : ∀ {s t}, R s t → ∃ heard, t.body = { s.body with heard := heard }
  relog : ∀ {s t}, R s t → ∀ front back, R { s with log := front } { t with log := back }
  change : ∀ {s t}, R s t → ∀ {f : Session → Session}, Session.Inward f →
    R { s with body := f s.body } { t with body := f t.body }
  ledCount : ∀ {s t}, R s t → ∀ {v config}, s.body.config.withLedCount v = .ok config →
    R { s with body := { s.body with config } } { t with body := { t.body with config } }
  brightness : ∀ {s t}, R s t → ∀ {v config}, s.body.config.withBrightness v = .ok config →
    R { s with body := { s.body with config } } { t with body := { t.body with config } }
  speed : ∀ {s t}, R s t → ∀ {v config}, s.body.config.withSpeed v = .ok config →
    R { s with clock := s.clock.after (.setSpeed config.speed), body := { s.body with config } }
      { t with clock := t.clock.after (.setSpeed config.speed), body := { t.body with config } }

/-- The sessions also stay related when both change their listeners or keep a call of one. -/
structure Attended (R : SessionState → SessionState → Prop) : Prop extends InStep R where
  hear : ∀ {s t}, R s t → ∀ id, R (s.heardBy id) (t.heardBy id)
  enrol : ∀ {s t}, R s t → ∀ {f : Session → Session}, Session.Fitting f →
    R { s with body := f s.body } { t with body := f t.body }

/-- Related sessions hold the same but for what is logged, heard and still to be reported, and they
stay related when single fields of both are changed in the same way. -/
structure Abreast (R : SessionState → SessionState → Prop) : Prop where
  timed : Timed.Abreast R
  body : ∀ {s t}, R s t → ∃ heard, t.body = { s.body with heard := heard }
  relog : ∀ {s t}, R s t → ∀ front back, R { s with log := front } { t with log := back }
  hear : ∀ {s t}, R s t → ∀ id, R (s.heardBy id) (t.heardBy id)
  change : ∀ {s t}, R s t → ∀ {f : Session → Session}, Session.Aloof f →
    R { s with body := f s.body } { t with body := f t.body }
  ledCount : ∀ {s t}, R s t → ∀ {v config}, s.body.config.withLedCount v = .ok config →
    R { s with body := { s.body with config } } { t with body := { t.body with config } }
  brightness : ∀ {s t}, R s t → ∀ {v config}, s.body.config.withBrightness v = .ok config →
    R { s with body := { s.body with config } } { t with body := { t.body with config } }
  speed : ∀ {s t}, R s t → ∀ {v config}, s.body.config.withSpeed v = .ok config →
    R { s with clock := s.clock.after (.setSpeed config.speed), body := { s.body with config } }
      { t with clock := t.clock.after (.setSpeed config.speed), body := { t.body with config } }

open LedStudio.Action (Agree)

variable {R : SessionState → SessionState → Prop} {s t : SessionState}
  {notify other : SessionAction Unit}

namespace InStep

/-! ## What is the same -/

theorem picture_eq (hR : InStep R) (h : R s t) : t.picture = s.picture := by
  obtain ⟨heard, hbody⟩ := hR.body h
  rw [picture, (hR.timed.clock h).frame, hbody]
  rfl

theorem config_eq (hR : InStep R) (h : R s t) : t.body.config = s.body.config := by
  obtain ⟨heard, hbody⟩ := hR.body h
  rw [hbody]

theorem mannerOf_eq (hR : InStep R) (h : R s t) (id : String) :
    t.body.mannerOf id = s.body.mannerOf id := by
  obtain ⟨heard, hbody⟩ := hR.body h
  rw [hbody]
  rfl

theorem subscribers_eq (hR : InStep R) (h : R s t) : t.body.subscribers = s.body.subscribers := by
  obtain ⟨heard, hbody⟩ := hR.body h
  rw [hbody]

theorem actors_eq (hR : InStep R) (h : R s t) : t.body.actors = s.body.actors := by
  obtain ⟨heard, hbody⟩ := hR.body h
  rw [hbody]
  rfl

/-! ## Rendering -/

theorem render (hR : InStep R) (hnotify : Agree R notify other) :
    Agree R (Session.render notify) (Session.render other) := by
  intro s t h
  have hpicture := hR.picture_eq h
  have hspent : R s.spent t.spent := by
    rw [spent, spent, hpicture]
    exact hR.relog (hR.change h (f := fun b => { b with stream := s.picture.stream })
      ⟨⟨⟨fun _ => rfl, fun _ _ => rfl⟩, fun _ => rfl⟩, fun _ => rfl⟩) _ _
  rw [Session.render_eq, Session.render_eq, hpicture]
  cases s.picture.leds with
  | error f => exact ⟨rfl, hspent⟩
  | ok leds =>
    exact hnotify _ _ (hR.change hspent (f := fun b => { b with leds })
      ⟨⟨⟨fun _ => rfl, fun _ _ => rfl⟩, fun _ => rfl⟩, fun _ => rfl⟩)

theorem renderIfRunning (hR : InStep R) (hnotify : Agree R notify other) :
    Agree R (Session.renderIfRunning notify) (Session.renderIfRunning other) := by
  intro s t h
  rw [Session.renderIfRunning_eq, Session.renderIfRunning_eq, (hR.timed.clock h).isRunning]
  split
  · exact hR.render hnotify s t h
  · exact ⟨rfl, h⟩

/-! ## Operations -/

theorem setLedCount (hR : InStep R) (hnotify : Agree R notify other) (v : Value) :
    Agree R (Session.setLedCount notify v) (Session.setLedCount other v) := by
  intro s t h
  rw [Session.setLedCount_eq, Session.setLedCount_eq, hR.config_eq h]
  cases hconfig : s.body.config.withLedCount v with
  | error f => exact ⟨rfl, h⟩
  | ok config =>
    have hset := hR.ledCount h hconfig
    dsimp only
    cases blankLeds config.ledCount with
    | error f => exact ⟨rfl, hset⟩
    | ok leds =>
      have hblank := hR.change hset (f := fun b => { b with leds })
        ⟨⟨⟨fun _ => rfl, fun _ _ => rfl⟩, fun _ => rfl⟩, fun _ => rfl⟩
      exact hR.renderIfRunning hnotify _ _ (hR.relog hblank _ _)

theorem setPattern (hR : InStep R) (hnotify : Agree R notify other) (ref : PatternRef) :
    Agree R (Session.setPattern notify ref) (Session.setPattern other ref) := by
  intro s t h
  obtain ⟨front, hs⟩ := Session.setPattern_eq notify s ref
  obtain ⟨back, ht⟩ := Session.setPattern_eq other t ref
  rw [hs, ht]
  have hset := hR.change h (f := fun b => { b with pattern := ref.normalize })
    ⟨⟨⟨fun _ => rfl, fun _ _ => rfl⟩, fun _ => rfl⟩, fun _ => rfl⟩
  exact hR.renderIfRunning hnotify _ _ (hR.relog hset _ _)

theorem setBrightness (hR : InStep R) (hnotify : Agree R notify other) (v : Value) :
    Agree R (Session.setBrightness notify v) (Session.setBrightness other v) := by
  intro s t h
  rw [Session.setBrightness_eq, Session.setBrightness_eq, hR.config_eq h]
  cases hconfig : s.body.config.withBrightness v with
  | error f => exact ⟨rfl, h⟩
  | ok config =>
    exact hR.renderIfRunning hnotify _ _ (hR.relog (hR.brightness h hconfig) _ _)

theorem setSpeed (hR : InStep R) (v : Value) :
    Agree R (Session.setSpeed v) (Session.setSpeed v) := by
  intro s t h
  have hsame := hR.config_eq h
  cases hconfig : s.body.config.withSpeed v with
  | error f =>
    simp only [Session.setSpeed, bind, Action.andThen, Session.get, Action.lift, hsame, hconfig]
    exact ⟨trivial, h⟩
  | ok config =>
    have hconfig' : t.body.config.withSpeed v = .ok config := hsame ▸ hconfig
    obtain ⟨front, hs⟩ := Session.setSpeed_state s v
    obtain ⟨back, ht⟩ := Session.setSpeed_state t v
    rw [hconfig] at hs
    rw [hconfig'] at ht
    refine ⟨(Session.setSpeed_ok hconfig).trans (Session.setSpeed_ok hconfig').symm, ?_⟩
    rw [hs, ht]
    exact hR.relog (hR.speed h hconfig) _ _

theorem generateCode (hR : InStep R) : Agree R Session.generateCode Session.generateCode := by
  intro s t h
  obtain ⟨heard, hbody⟩ := hR.body h
  cases hwritten : Sketch.generate s.body.pattern s.body.config.ledCount s.body.config.brightness
      s.body.config.speed s.body.wiring with
  | error f =>
    have ht : Session.generateCode t = (.error f, t) :=
      Session.generateCode_error t (by rw [hbody]; exact hwritten)
    rw [Session.generateCode_error s hwritten, ht]
    exact ⟨rfl, h⟩
  | ok written =>
    obtain ⟨front, hs⟩ := Session.generateCode_ok s hwritten
    obtain ⟨back, ht⟩ := Session.generateCode_ok t (by rw [hbody]; exact hwritten)
    have hkept := hR.change h (f := fun b => { b with code := some written.1 })
      ⟨⟨⟨fun _ => rfl, fun _ _ => rfl⟩, fun _ => rfl⟩, fun _ => rfl⟩
    rw [hs, ht]
    exact ⟨rfl, hR.relog hkept _ _⟩

theorem play (hR : InStep R) (hnotify : Agree R notify other) :
    Agree R (Session.play notify) (Session.play other) :=
  hR.timed.start.bind fun _ => .bind (hR.render hnotify) fun _ => hR.generateCode

theorem applyPrompt (hR : InStep R) (hnotify : Agree R notify other) (prompt : Value) :
    Agree R (Session.applyPrompt notify prompt) (Session.applyPrompt other prompt) :=
  (Agree.lift _).bind fun p => .bind (hR.timed.note _) fun _ =>
    .bind (hR.setPattern hnotify (.id p)) fun _ => .bind (hR.play hnotify) fun _ => .pure p

/-- **An operation on two sessions**, if subscribing and unsubscribing keep them related: whoever is
told of the renderings, it gives the same and leaves them related. -/
theorem perform_agree (hR : InStep R) (hnotify : Agree R notify other) {op : SessionOp}
    (hsubscribe : ∀ id manner, op = .subscribe id manner →
      Agree R (Session.subscribe id manner) (Session.subscribe id manner))
    (hunsubscribe : ∀ id manner, op = .unsubscribe id manner →
      Agree R (Session.unsubscribe id manner) (Session.unsubscribe id manner)) :
    Agree R (op.perform notify) (op.perform other) := by
  cases op with
  | start => exact hR.timed.start.bind fun _ => .pure _
  | stop => exact hR.timed.stop.bind fun _ => .pure _
  | reset => exact (hR.timed.reset (hR.render hnotify)).bind fun _ => .pure _
  | step => exact (hR.timed.tick (hR.render hnotify)).bind fun _ => .pure _
  | play => exact (hR.play hnotify).bind fun _ => .pure _
  | render => exact (hR.render hnotify).bind fun _ => .pure _
  | generateCode => exact hR.generateCode.bind fun _ => .pure _
  | setLedCount v => exact (hR.setLedCount hnotify v).bind fun _ => .pure _
  | setPattern ref => exact (hR.setPattern hnotify ref).bind fun _ => .pure _
  | setBrightness v => exact (hR.setBrightness hnotify v).bind fun _ => .pure _
  | setSpeed v => exact (hR.setSpeed v).bind fun _ => .pure _
  | applyPrompt v => exact (hR.applyPrompt hnotify v).bind fun _ => .pure _
  | subscribe id manner => exact (hsubscribe id manner rfl).bind fun _ => .pure _
  | unsubscribe id manner => exact (hunsubscribe id manner rfl).bind fun _ => .pure _

end InStep

/-- The two sessions are the same but for their logs, and what they hold has a property. -/
def Beside (I : Session → Prop) (s t : SessionState) : Prop :=
  I s.body ∧ ∃ log, t = { s with log := log }

theorem Beside.clock_eq {I : Session → Prop} (h : Beside I s t) : s.clock = t.clock := by
  obtain ⟨-, log, rfl⟩ := h
  rfl

theorem Beside.body_eq {I : Session → Prop} (h : Beside I s t) : s.body = t.body := by
  obtain ⟨-, log, rfl⟩ := h
  rfl

theorem Beside.inStep {I : Session → Prop} (hchange : ∀ {f b}, Session.Inward f → I b → I (f b))
    (hconfig : ∀ {b : Session} config, I b → I { b with config }) : InStep (Beside I) where
  timed := by
    refine Timed.Parallel.abreast ⟨?_, ?_⟩
    · rintro s _ ⟨-, log, rfl⟩
      rfl
    · rintro s _ ⟨hs, log, rfl⟩ c more
      exact ⟨hs, log ++ more, rfl⟩
  body := by
    rintro s _ ⟨-, log, rfl⟩
    exact ⟨s.body.heard, rfl⟩
  relog := by
    rintro s _ ⟨hs, log, rfl⟩ front back
    exact ⟨hs, back, rfl⟩
  change := by
    rintro s _ ⟨hs, log, rfl⟩ f hf
    exact ⟨hchange hf hs, log, rfl⟩
  ledCount := by
    rintro s _ ⟨hs, log, rfl⟩ v config -
    exact ⟨hconfig config hs, log, rfl⟩
  brightness := by
    rintro s _ ⟨hs, log, rfl⟩ v config -
    exact ⟨hconfig config hs, log, rfl⟩
  speed := by
    rintro s _ ⟨hs, log, rfl⟩ v config -
    exact ⟨hconfig config hs, log, rfl⟩

theorem Beside.attended {I : Session → Prop} (hchange : ∀ {f b}, Session.Fitting f → I b → I (f b))
    (hconfig : ∀ {b : Session} config, I b → I { b with config })
    (hheard : ∀ {b : Session} heard, I b → I { b with heard }) : Attended (Beside I) where
  toInStep := Beside.inStep (fun hf => hchange hf.toFitting) hconfig
  hear := by
    rintro s _ ⟨hs, log, rfl⟩ id
    exact ⟨hheard _ hs, log, rfl⟩
  enrol := by
    rintro s _ ⟨hs, log, rfl⟩ f hf
    exact ⟨hchange hf hs, log, rfl⟩

theorem Abreast.attended (hR : Abreast R) : Attended R :=
  { hR with
    change := fun h _ hf => hR.change h hf.toAloof
    enrol := fun h _ hf => hR.change h hf.toAloof }

namespace Attended

theorem modify (hR : Attended R) {f : Session → Session} (hf : Session.Fitting f) :
    Agree R (Session.modify f) (Session.modify f) :=
  .modify fun _ _ h => hR.enrol h hf

theorem fitting_introduce (id : String) (manner : Manner) :
    Session.Fitting (·.introduce id manner) where
  config b := by
    obtain ⟨listeners, hb⟩ := Session.introduce_eq b id manner
    rw [hb]
  wiring b := by
    obtain ⟨listeners, hb⟩ := Session.introduce_eq b id manner
    rw [hb]
  heard b heard := by
    unfold Session.introduce
    dsimp only
    split <;> rfl

theorem subscribe (hR : Attended R) (id : String) (manner : Manner) :
    Agree R (Session.subscribe id manner) (Session.subscribe id manner) :=
  hR.modify
    { fitting_introduce id manner with
      heard := fun b heard => by rw [(fitting_introduce id manner).heard b heard] }

theorem unsubscribe (hR : Attended R) (id : String) (manner : Manner) :
    Agree R (Session.unsubscribe id manner) (Session.unsubscribe id manner) :=
  hR.modify
    { fitting_introduce id manner with
      heard := fun b heard => by rw [(fitting_introduce id manner).heard b heard] }

theorem perform_agree (hR : Attended R) (hnotify : Agree R notify other) (op : SessionOp) :
    Agree R (op.perform notify) (op.perform other) :=
  hR.toInStep.perform_agree hnotify (fun id manner _ => hR.subscribe id manner)
    fun id manner _ => hR.unsubscribe id manner

/-! ## Listeners -/

theorem performAll (hR : Attended R) (hnotify : Agree R notify other) (ops : List SessionOp) :
    Agree R (Session.performAll notify ops) (Session.performAll other ops) := by
  induction ops with
  | nil => exact .pure ()
  | cons op rest ih => exact (hR.perform_agree hnotify op).bind fun _ => ih

theorem call (hR : Attended R) (hnotify : Agree R notify other) (id : String) :
    Agree R (Session.call notify id) (Session.call other id) := by
  intro s t h
  have hheard := hR.hear h id
  rw [Session.call_eq, Session.call_eq, hR.mannerOf_eq h, (hR.timed.clock h).frame]
  cases s.body.mannerOf id with
  | listen => exact ⟨rfl, hheard⟩
  | fail => exact ⟨rfl, hheard⟩
  | act frame ops =>
    dsimp only
    split
    · have hretire := hR.modify (f := Session.retire id)
        ⟨⟨fun _ => rfl, fun _ _ => rfl⟩, fun _ => rfl⟩
      exact hretire.bind (fun _ => hR.performAll hnotify ops) _ _ hheard
    · exact ⟨rfl, hheard⟩

theorem serve (hR : Attended R) (hnotify : Agree R notify other) (ids : List String) :
    Agree R (Session.serve notify ids) (Session.serve other ids) := by
  induction ids with
  | nil => exact .pure ()
  | cons id rest ih =>
    refine .bind (hR.call hnotify id).attempt fun result => ?_
    cases result with
    | ok _ => exact ih
    | error f => exact .bind (hR.timed.note _) fun _ => ih

/-- Telling the listeners, whatever they do. -/
theorem notifyAll (hR : Attended R) (fuel : Nat) :
    Agree R (Session.notifyAll fuel) (Session.notifyAll fuel) := by
  have tell {next : SessionAction Unit} (hnext : Agree R next next) :
      Agree R (do Session.serve next (← Session.get).subscribers)
        (do Session.serve next (← Session.get).subscribers) := by
    intro s t h
    show (Session.serve next s.body.subscribers s).1 = (Session.serve next t.body.subscribers t).1 ∧
      R (Session.serve next s.body.subscribers s).2 (Session.serve next t.body.subscribers t).2
    rw [hR.subscribers_eq h]
    exact hR.serve hnext _ s t h
  induction fuel with
  | zero => exact tell (.pure ())
  | succ fuel ih => exact tell ih

theorem notify_agree (hR : Attended R) (h : R s t) (more : Nat) :
    Agree R (s.notify more) (t.notify more) := by
  unfold SessionState.notify
  rw [hR.actors_eq h]
  exact hR.notifyAll _

/-! ## Steps -/

/-- **An operation on two sessions** gives the same and leaves them related. -/
theorem perform (hR : Attended R) (h : R s t) (op : SessionOp) :
    (s.perform op).1 = (t.perform op).1 ∧ R (s.perform op).2 (t.perform op).2 :=
  hR.perform_agree (hR.notify_agree h op.actors) op s t h

theorem elapse (hR : Attended R) (h : R s t) (ms : Nat) : R (s.elapse ms) (t.elapse ms) :=
  hR.timed.advance_agree (hR.render (hR.notify_agree h 0)) ms h

theorem step (hR : Attended R) (h : R s t) (todo : SessionStep) :
    (s.step todo).1 = (t.step todo).1 ∧ R (s.step todo).2 (t.step todo).2 := by
  cases todo with
  | op op =>
    obtain ⟨hout, hstate⟩ := hR.perform h op
    exact ⟨hout, hR.timed.settle hstate⟩
  | elapse ms => exact ⟨rfl, hR.elapse h ms⟩

theorem steps (hR : Attended R) (h : R s t) (todo : List SessionStep) :
    R (s.steps todo) (t.steps todo) := by
  induction todo generalizing s t with
  | nil => exact h
  | cons first rest ih => exact ih (hR.step h first).2

end Attended
end SessionState
end LedStudio
