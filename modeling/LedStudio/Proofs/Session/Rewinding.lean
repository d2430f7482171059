import LedStudio.Proofs.Pattern.Frame
import LedStudio.Proofs.Session.Abreast

/-!
# Rewinding forgets the past

Rewinding stops the clock, goes back to frame zero and draws it. Whatever went on before is then of
no account: the frame and the state the clock had, its pending tick, and what the LEDs showed. The
speed of the clock is no past of its own, since it is always that of the settings.

* `Reachable.paced` — the clock has the speed of the settings.
* `run_reset` — what rewinding comes to.
* `reset_forgets` — two sessions that only differ in their past cannot be told apart once both are
  rewound, by whatever is done with them from then on.
-/

namespace LedStudio

/-- What a session shows of itself. -/
structure Snapshot where
  pattern : PatternRef
  config : StripConfig
  frame : Nat
  state : ClockState
  leds : List Color
  code : Option String

namespace SessionState

variable {s t u : SessionState}

def snapshot (s : SessionState) : Snapshot where
  pattern := s.body.pattern
  config := s.body.config
  frame := s.clock.frame
  state := s.clock.state
  leds := s.body.leds
  code := s.body.code

/-- What the steps give, one after the other, and what the session shows after each. -/
def transcript (s : SessionState) : List SessionStep → List (Outcome SessionResult × Snapshot)
  | [] => []
  | todo :: rest => ((s.step todo).1, (s.step todo).2.snapshot) :: (s.step todo).2.transcript rest

/-- A session that came about by steps from one that was made. -/
def Reachable (s : SessionState) : Prop :=
  ∃ (setup : SessionSetup) (made : SessionState) (before : List SessionStep),
    setup.create = .ok made ∧ s = made.steps before

/-! ## Sessions that go on alike -/

/-- The clock has the speed of the settings. -/
def Paced (s : SessionState) : Prop := clampSpeed s.body.config.speed = .ok s.clock.speed

/-- The sessions are paced, and the same but for what is logged, heard and still to be reported. -/
structure Alike (s t : SessionState) : Prop where
  paced : s.Paced
  clock : s.clock.Peer t.clock
  body : ∃ heard, t.body = { s.body with heard := heard }

namespace Alike

theorem refl (h : s.Paced) : Alike s s := ⟨h, .refl _, s.body.heard, rfl⟩

theorem abreast : Abreast Alike where
  timed :=
    { clock := fun h => h.clock
      turn := fun h _ hf hspeed _ =>
        { paced := h.paced.trans (congrArg _ (hspeed _).symm)
          clock := hf h.clock
          body := h.body } }
  body h := h.body
  relog h _ _ := ⟨h.paced, h.clock, h.body⟩
  hear h id := by
    obtain ⟨heard, hbody⟩ := h.body
    exact ⟨h.paced, h.clock, _, by rw [heardBy, hbody]; rfl⟩
  change := by
    intro s t h f hf
    obtain ⟨heard, hbody⟩ := h.body
    refine ⟨?_, h.clock, heard, by rw [hbody]; exact hf.heard _ _⟩
    rw [Paced, hf.config]
    exact h.paced
  ledCount := by
    intro s t h v config hconfig
    obtain ⟨heard, hbody⟩ := h.body
    obtain ⟨n, -, rfl⟩ := StripConfig.withLedCount_ok hconfig
    exact ⟨h.paced, h.clock, heard, by rw [hbody]⟩
  brightness := by
    intro s t h v config hconfig
    obtain ⟨heard, hbody⟩ := h.body
    obtain ⟨b, -, rfl⟩ := StripConfig.withBrightness_ok hconfig
    exact ⟨h.paced, h.clock, heard, by rw [hbody]⟩
  speed := by
    intro s t h v config hconfig
    obtain ⟨heard, hbody⟩ := h.body
    obtain ⟨k, hk, rfl⟩ := StripConfig.withSpeed_ok hconfig
    have hclamp := clampSpeed_clamped hk
    refine ⟨?_, Clock.even_after (.setSpeed (.int k)) h.clock, heard, by rw [hbody]⟩
    exact hclamp.trans (congrArg _ (s.clock.after_setSpeed_speed hclamp).symm)

theorem snapshot_eq (h : Alike s t) : s.snapshot = t.snapshot := by
  obtain ⟨heard, hbody⟩ := h.body
  unfold snapshot Clock.state
  rw [h.clock.frame, h.clock.isRunning, hbody]

/-- Sessions that are alike cannot be told apart. -/
theorem transcript_eq (h : Alike s t) (todo : List SessionStep) :
    s.transcript todo = t.transcript todo := by
  induction todo generalizing s t with
  | nil => rfl
  | cons first rest ih =>
    obtain ⟨hout, hstate⟩ := abreast.attended.step h first
    rw [transcript, transcript, hout, hstate.snapshot_eq, ih hstate]

end Alike

/-- **The clock always has the speed of the settings**, whatever the session is made of and whatever
is done with it. -/
theorem Reachable.paced (h : s.Reachable) : s.Paced := by
  obtain ⟨setup, made, before, hmade, rfl⟩ := h
  have hpaced : made.Paced := by
    obtain ⟨leds, clock, -, hclock, rfl⟩ := SessionSetup.create_ok hmade
    obtain ⟨-, -, -, hspeed, -⟩ := Clock.create_spec hclock
    exact hspeed
  exact (Alike.abreast.attended.steps (.refl hpaced) before).paced

/-! ## Rewinding -/

/-- The picture of frame zero. -/
def opening (s : SessionState) : Picture :=
  computeFrame s.body.pattern s.body.config.ledCount 0 s.body.config.brightness s.body.stream

/-- The session once it is rewound and has drawn frame zero, before anyone is told. -/
def rewound (s : SessionState) (leds : List Color) : SessionState where
  clock := s.clock.after .reset
  log := s.log ++ [⟨.clock, .info, "Clock reset", []⟩] ++ s.opening.log
  body := { s.body with stream := s.opening.stream, leds }

theorem perform_reset {leds : List Color} (h : s.opening.leds = .ok leds) :
    s.perform .reset = (.ok .nothing, (s.notify 0 (s.rewound leds)).2) := by
  have hrender : Session.render (s.notify 0) (Timed.poised .reset s) =
      s.notify 0 (s.rewound leds) := by
    have hleds : (picture (Timed.poised .reset s)).leds = .ok leds := h
    rw [Session.render_eq, hleds]
    rfl
  have htold : (s.notify 0 (s.rewound leds)).1 = .ok () :=
    Session.notifyAll_result (s.rewound leds) (s.body.actors + 0)
  have hemit : (Timed.emit (Session.render (s.notify 0)) (Timed.poised .reset s)).2 =
      (s.notify 0 (s.rewound leds)).2 := by
    unfold Timed.emit
    rw [hrender]
    rcases hnotify : s.notify 0 (s.rewound leds) with ⟨f | _, v⟩
    · rw [hnotify] at htold
      cases htold
    · rfl
  have hreset := Timed.emit_andThen (Session.render (s.notify 0))
    (fun _ => (pure .nothing : SessionAction SessionResult)) (Timed.poised .reset s)
  rw [hemit] at hreset
  exact hreset

/-- None of the subscribed listeners would carry out operations when it is called at frame zero. -/
def OpensQuietly (s : SessionState) : Prop :=
  ∀ id ∈ s.body.subscribers, ¬IsDue { s with clock := { s.clock with frame := 0 } } id

instance (s : SessionState) : Decidable s.OpensQuietly :=
  inferInstanceAs (Decidable (∀ id ∈ s.body.subscribers, _))

/-- The session `u` stands at frame zero with the given LEDs and no pending tick, and has the
settings, the pattern and the sketch of `s`. -/
structure OpenedAs (s : SessionState) (leds : List Color) (u : SessionState) : Prop where
  state : u.clock.state = .idle
  frame : u.clock.frame = 0
  due : u.clock.cadence = .idle
  leds : u.body.leds = leds
  config : u.body.config = s.body.config
  pattern : u.body.pattern = s.body.pattern
  code : u.body.code = s.body.code

theorem run_reset {leds : List Color} (hquiet : s.OpensQuietly) (h : s.opening.leds = .ok leds) :
    s.OpenedAs leds (s.run .reset).2 := by
  obtain ⟨log, heard, htold, -⟩ :=
    Session.notifyAll_idle (s := s.rewound leds) (s.body.actors + 0) hquiet
  have hrun : (s.run .reset).2 = Timed.settle { s.rewound leds with
      log := (s.rewound leds).log ++ log, body := { (s.rewound leds).body with heard } } := by
    rw [run, perform_reset h, notify, htold]
  rw [hrun]
  exact ⟨rfl, rfl, rfl, rfl, rfl, rfl, rfl⟩

/-! ## Two sessions -/

/-- The sessions are the same in all that rewinding leaves as it is. They may differ in the frame,
in what ticks and when, in what the LEDs show, and in what was logged and heard. -/
structure SameKeep (s t : SessionState) : Prop where
  config : t.body.config = s.body.config
  pattern : t.body.pattern = s.body.pattern
  wiring : t.body.wiring = s.body.wiring
  minInterval : t.clock.minInterval = s.clock.minInterval
  hasLoop : t.clock.hasLoop = s.clock.hasLoop
  code : t.body.code = s.body.code
  stream : t.body.stream = s.body.stream
  subscribers : t.body.subscribers = s.body.subscribers
  listeners : t.body.listeners = s.body.listeners

namespace SameKeep

theorem opening_eq (h : SameKeep s t) : t.opening = s.opening := by
  unfold opening
  rw [h.pattern, h.config, h.stream]

theorem opensQuietly (h : SameKeep s t) (hquiet : s.OpensQuietly) : t.OpensQuietly := by
  unfold OpensQuietly IsDue Session.mannerOf at hquiet ⊢
  rw [h.subscribers, h.listeners]
  exact hquiet

theorem alike_rewound (h : SameKeep s t) (hs : s.Paced) (ht : t.Paced) (leds : List Color) :
    Alike (s.rewound leds) (t.rewound leds) where
  paced := hs
  clock := by
    have hspeed : t.clock.speed = s.clock.speed := by
      rw [Paced, h.config, hs] at ht
      exact (Except.ok.inj ht).symm
    rcases hclock : s.clock with ⟨speed, least, pos, frame, cadence, cancelled, hasLoop⟩
    rcases hclock' : t.clock with ⟨speed', least', pos', frame', cadence', cancelled', hasLoop'⟩
    have hleast := h.minInterval
    have hloop := h.hasLoop
    rw [hclock, hclock'] at hspeed hleast hloop
    cases hspeed
    cases hleast
    cases hloop
    rw [rewound, rewound, hclock, hclock']
    exact ⟨_, rfl⟩
  body := by
    refine ⟨t.body.heard, ?_⟩
    simp only [rewound, h.opening_eq]
    rw [← h.config, ← h.pattern, ← h.wiring, ← h.code, ← h.subscribers, ← h.listeners]

/-- Rewinding leaves the two sessions alike, whatever the listeners do about it. -/
theorem alike_perform (h : SameKeep s t) (hs : s.Paced) (ht : t.Paced) {leds : List Color}
    (hleds : s.opening.leds = .ok leds) :
    Alike (s.perform .reset).2 (t.perform .reset).2 := by
  have hactors : t.body.actors = s.body.actors := by
    unfold Session.actors
    rw [h.listeners]
  have hleds' : t.opening.leds = .ok leds := h.opening_eq ▸ hleds
  have htold := Alike.abreast.attended.notifyAll (s.body.actors + 0) _ _ (h.alike_rewound hs ht leds)
  rw [perform_reset hleds, perform_reset hleds', notify, notify, hactors]
  exact htold.2

theorem trans (h : SameKeep s t) (h' : SameKeep t u) : SameKeep s u where
  config := h'.config.trans h.config
  pattern := h'.pattern.trans h.pattern
  wiring := h'.wiring.trans h.wiring
  minInterval := h'.minInterval.trans h.minInterval
  hasLoop := h'.hasLoop.trans h.hasLoop
  code := h'.code.trans h.code
  stream := h'.stream.trans h.stream
  subscribers := h'.subscribers.trans h.subscribers
  listeners := h'.listeners.trans h.listeners

theorem settle (s : SessionState) : SameKeep s (Timed.settle s) where
  config := rfl
  pattern := rfl
  wiring := rfl
  minInterval := s.clock.alike_settled.minInterval
  hasLoop := by
    simp only [Timed.settle, Clock.beginFresh]
    split <;> rfl
  code := rfl
  stream := rfl
  subscribers := rfl
  listeners := rfl

/-- A step of one frame that no listener makes use of is no more than past. -/
theorem step (hquiet : ∀ id ∈ s.body.subscribers, ¬IsDue (Timed.poised .tick s) id)
    (hsteady : s.body.pattern.isDeterministic = true) : SameKeep s (s.run .step).2 := by
  let shown := (Timed.emit (Session.render (s.notify 0)) (Timed.poised .tick s)).2
  have hshown : SameKeep s shown := by
    have hstream : (picture (Timed.poised .tick s)).stream = s.body.stream :=
      computeFrame_stream hsteady _ _ _ _
    unfold shown Timed.emit
    rw [Session.render_eq]
    cases (picture (Timed.poised .tick s)).leds with
    | error f => exact ⟨rfl, rfl, rfl, rfl, rfl, rfl, hstream, rfl, rfl⟩
    | ok leds =>
      let drawn : SessionState := { spent (Timed.poised .tick s) with
        body := { (spent (Timed.poised .tick s)).body with leds } }
      obtain ⟨log, heard, htold, -⟩ :=
        Session.notifyAll_idle (s := drawn) (s.body.actors + 0) hquiet
      have hnotify : s.notify 0 drawn = (.ok (), { drawn with
          log := drawn.log ++ log, body := { drawn.body with heard } }) := htold
      simp only [drawn] at hnotify
      simp only [hnotify]
      exact ⟨rfl, rfl, rfl, rfl, rfl, rfl, hstream, rfl, rfl⟩
  have hrun : s.perform .step = (.ok (.frame shown.clock.frame), shown) :=
    Action.andThen_ok (Timed.tick_eq (Session.render (s.notify 0)) s)
  rw [run, hrun]
  exact hshown.trans (settle shown)

end SameKeep

/-- **Rewinding forgets the past.** Take any two sessions, whatever they were made of and whatever
was done with them, that have the same settings, pattern, wiring, least interval, event loop, sketch,
listeners and subscriptions and the same random numbers left, but may differ in the frame, in
whether they run, in the pending tick and in what the LEDs show; and let there be a picture of frame
zero. Then rewinding succeeds in both, and from there on whatever is done with both, and however
much time passes in between, gives the same and shows the same, listeners that operate the sessions
included. If none of the listeners does so when it is told of frame zero, both sessions stand at
frame zero with its picture and without a pending tick, and the settings, the pattern and the sketch
are as they were. -/
theorem reset_forgets (hs : s.Reachable) (ht : t.Reachable) (h : SameKeep s t) {leds : List Color}
    (hleds : s.opening.leds = .ok leds) :
    (∀ todo : List SessionStep,
      s.transcript (.op .reset :: todo) = t.transcript (.op .reset :: todo)) ∧
    (s.run .reset).1 = .ok .nothing ∧ (t.run .reset).1 = .ok .nothing ∧
    (s.OpensQuietly →
      s.OpenedAs leds (s.run .reset).2 ∧ t.OpenedAs leds (t.run .reset).2) := by
  have hleds' : t.opening.leds = .ok leds := h.opening_eq ▸ hleds
  have hsdone : (s.run .reset).1 = .ok .nothing := congrArg Prod.fst (perform_reset hleds)
  have htdone : (t.run .reset).1 = .ok .nothing := congrArg Prod.fst (perform_reset hleds')
  have halike : Alike (s.run .reset).2 (t.run .reset).2 :=
    Alike.abreast.timed.settle (h.alike_perform hs.paced ht.paced hleds)
  refine ⟨fun todo => ?_, hsdone, htdone, fun hquiet => ?_⟩
  · simp only [transcript, step]
    rw [hsdone, htdone, halike.snapshot_eq, halike.transcript_eq todo]
  · exact ⟨run_reset hquiet hleds, run_reset (h.opensQuietly hquiet) hleds'⟩

/-- Two LEDs that flash. -/
def twoStrobing : SessionSetup where
  config := ⟨.int 2, .int 10, .int 97⟩
  pattern := .id .strobe
  stream := .cycle #[]

/-- The session with a listener. -/
def watchedBy (manner : Manner) (s : SessionState) : SessionState :=
  s.steps [.op (.subscribe "view" manner)]

theorem opening_of_isOk (h : s.opening.leds.isOk = true) : ∃ leds, s.opening.leds = .ok leds := by
  cases hleds : s.opening.leds with
  | ok leds => exact ⟨leds, rfl⟩
  | error f =>
    rw [hleds] at h
    cases h

/-- One session is new, and the other one has been started and stepped. The listener is still to
start the clock when it is told of frame three. -/
theorem reset_forgets_strobing : ∃ made, twoStrobing.create = .ok made ∧
    let s := watchedBy (.act (some 3) [.start]) made
    let t := ((s.run .start).2.run .step).2
    t.clock.frame = 1 ∧ t.clock.isRunning = true ∧ t.body.leds ≠ s.body.leds ∧
    (∀ todo : List SessionStep,
      s.transcript (.op .reset :: todo) = t.transcript (.op .reset :: todo)) ∧
    ∃ leds, s.opening.leds = .ok leds ∧ t.OpenedAs leds (t.run .reset).2 := by
  refine ⟨_, rfl, ?_⟩
  intro s t
  have hs : s.Reachable := ⟨twoStrobing, _, _, rfl, rfl⟩
  have ht : t.Reachable :=
    ⟨twoStrobing, _, [.op (.subscribe "view" (.act (some 3) [.start])), .op .start, .op .step],
      rfl, rfl⟩
  have hstarted : SameKeep s (s.run .start).2 := ⟨rfl, rfl, rfl, rfl, rfl, rfl, rfl, rfl, rfl⟩
  have hsame : SameKeep s t := hstarted.trans (.step (by decide +kernel) rfl)
  obtain ⟨leds, hleds⟩ := opening_of_isOk (s := s) (by decide +kernel)
  obtain ⟨hsame, -, -, hopened⟩ := reset_forgets hs ht hsame hleds
  exact ⟨by decide +kernel, by decide +kernel, by decide +kernel, hsame, leds, hleds,
    (hopened (by decide +kernel)).2⟩

/-- A listener that starts the clock when it is told of frame zero: the session runs once it is
rewound. A session that is the same but for that listener does not. -/
theorem disturbed_reset_runs_on : ∃ t, twoStrobing.create = .ok t ∧
    let s := watchedBy (.act (some 0) [.start]) t
    s.Reachable ∧ t.Reachable ∧ t.body.config = s.body.config ∧ t.body.pattern = s.body.pattern ∧
    t.body.wiring = s.body.wiring ∧ t.clock.minInterval = s.clock.minInterval ∧
    t.body.code = s.body.code ∧ t.body.stream = s.body.stream ∧
    (∃ leds, s.opening.leds = .ok leds) ∧
    (s.run .reset).2.clock.state = .running ∧ (t.run .reset).2.clock.state = .idle := by
  refine ⟨_, rfl, ⟨twoStrobing, _, _, rfl, rfl⟩, ⟨twoStrobing, _, [], rfl, rfl⟩, rfl, rfl, rfl, rfl,
    rfl, rfl, opening_of_isOk ?_, ?_, ?_⟩ <;> decide +kernel

end SessionState
end LedStudio
