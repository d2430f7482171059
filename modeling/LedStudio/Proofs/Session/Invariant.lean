import LedStudio.Proofs.Pattern.Frame
import LedStudio.Proofs.Pattern.Name
import LedStudio.Proofs.Session.Basic

/-!
# The fields of a session agree

A session holds its settings, the pattern, the LEDs and the clock side by side, and a dozen
operations write to them. Whatever they are called with and wherever they fail, and whatever the
listeners do in between, the fields stay in their ranges and agree with each other.

* `session_fields_agree` — after any steps there are as many LEDs as the settings say, the settings
  are in range, the clock runs by them, and the pattern is one or a text that names none.
-/

namespace LedStudio

mutual
/-- Wherever an operation, or a listener that it brings in, sets the number of LEDs, there is room
for that many. -/
def SessionOp.Buildable : SessionOp → Prop
  | .setLedCount v => ∀ n, clampLedCount v = .ok n → ∃ leds, blackLeds n = .ok leds
  | .subscribe _ manner | .unsubscribe _ manner => manner.Buildable
  | _ => True

def Manner.Buildable : Manner → Prop
  | .act _ ops => SessionOp.AllBuildable ops
  | _ => True

def SessionOp.AllBuildable : List SessionOp → Prop
  | [] => True
  | op :: rest => op.Buildable ∧ SessionOp.AllBuildable rest
end

def SessionStep.Buildable : SessionStep → Prop
  | .op todo => todo.Buildable
  | .elapse _ => True

/-- The fields of a session whose clock has this least interval agree with each other. -/
structure SessionState.Sound (least : Nat) (s : SessionState) : Prop where
  count : ∃ n : Int, s.body.config.ledCount = .int n ∧ 1 ≤ n ∧ (s.body.leds.length : Int) = n
  brightness : ∃ b : Int, s.body.config.brightness = .int b ∧ 10 ≤ b ∧ b ≤ 100
  speed : s.body.config.speed = .int s.clock.speed
  range : 0 ≤ s.clock.speed ∧ s.clock.speed ≤ 100
  least : s.clock.minInterval = least
  pattern : (∃ p, s.body.pattern = .id p) ∨ s.body.pattern.IsText ∧ s.body.pattern.resolve = none
  listeners : ∀ entry ∈ s.body.listeners, entry.2.Buildable

theorem blackLeds_length {n : Int} {leds : List Color} (hn : 1 ≤ n)
    (h : blackLeds n = .ok leds) : (leds.length : Int) = n := by
  unfold blackLeds at h
  split at h
  · cases h
  · split at h
    · cases h
    · cases h
      rw [List.length_replicate]
      omega

namespace SessionState.Sound

variable {least : Nat} {s t : SessionState}

/-- What the fields hold of the session alone. -/
theorem of_eq (h : Sound least s) (hconfig : t.body.config = s.body.config)
    (hpattern : t.body.pattern = s.body.pattern) (hleds : t.body.leds = s.body.leds)
    (hlisteners : t.body.listeners = s.body.listeners) (hspeed : t.clock.speed = s.clock.speed)
    (hleast : t.clock.minInterval = s.clock.minInterval) : Sound least t where
  count := by rw [hconfig, hleds]; exact h.count
  brightness := by rw [hconfig]; exact h.brightness
  speed := by rw [hconfig, hspeed]; exact h.speed
  range := by rw [hspeed]; exact h.range
  least := hleast.trans h.least
  pattern := by rw [hpattern]; exact h.pattern
  listeners := by rw [hlisteners]; exact h.listeners

theorem log (h : Sound least s) (log : Log) : Sound least { s with log := log } := { h with }

theorem clock (h : Sound least s) {c : Clock} (hspeed : c.speed = s.clock.speed)
    (hleast : c.minInterval = s.clock.minInterval) : Sound least { s with clock := c } :=
  h.of_eq rfl rfl rfl rfl hspeed hleast

theorem settle (h : Sound least s) : Sound least s.settle :=
  (h.clock s.clock.alike_settled.speed s.clock.alike_settled.minInterval).log _

/-! ## Rendering -/

theorem render {notify : SessionAction Unit} (hnotify : Action.Keeps (Sound least) notify) :
    Action.Keeps (Sound least) (Session.render notify) := by
  intro s hs
  rw [Session.render_eq]
  cases hleds : s.picture.leds with
  | error f => exact { hs with }
  | ok leds =>
    obtain ⟨n, hcount, hn, -⟩ := hs.count
    have hlength : (leds.length : Int) = n := by
      unfold SessionState.picture at hleds
      rw [hcount] at hleds
      exact computeFrame_length hn hleds
    exact hnotify _ { hs with count := ⟨n, hcount, hn, hlength⟩ }

theorem renderIfRunning {notify : SessionAction Unit}
    (hnotify : Action.Keeps (Sound least) notify) :
    Action.Keeps (Sound least) (Session.renderIfRunning notify) := by
  intro s hs
  rw [Session.renderIfRunning_eq]
  split
  · exact render hnotify s hs
  · exact hs

/-! ## Operations -/

theorem setLedCount {notify : SessionAction Unit} (hnotify : Action.Keeps (Sound least) notify)
    {v : Value} (hroom : ∀ n, clampLedCount v = .ok n → ∃ leds, blackLeds n = .ok leds) :
    Action.Keeps (Sound least) (Session.setLedCount notify v) := by
  intro s hs
  rw [Session.setLedCount_eq]
  cases hconfig : s.body.config.withLedCount v with
  | error f => exact hs
  | ok config =>
    obtain ⟨n, hn, rfl⟩ := StripConfig.withLedCount_ok hconfig
    obtain ⟨leds, hleds⟩ := hroom n hn
    simp only [blankLeds, hleds]
    have hpos := clampLedCount_pos hn
    exact renderIfRunning hnotify _
      { hs with count := ⟨n, rfl, hpos, blackLeds_length hpos hleds⟩ }

theorem setPattern {notify : SessionAction Unit} (hnotify : Action.Keeps (Sound least) notify)
    (ref : PatternRef) : Action.Keeps (Sound least) (Session.setPattern notify ref) := by
  intro s hs
  obtain ⟨log, h⟩ := Session.setPattern_eq notify s ref
  rw [h]
  exact renderIfRunning hnotify _ { hs with pattern := ref.normalize_kept }

theorem setBrightness {notify : SessionAction Unit} (hnotify : Action.Keeps (Sound least) notify)
    (v : Value) : Action.Keeps (Sound least) (Session.setBrightness notify v) := by
  intro s hs
  rw [Session.setBrightness_eq]
  cases hconfig : s.body.config.withBrightness v with
  | error f => exact hs
  | ok config =>
    obtain ⟨b, hb, rfl⟩ := StripConfig.withBrightness_ok hconfig
    exact renderIfRunning hnotify _
      { hs with brightness := ⟨b, rfl, clampBrightness_range hb⟩ }

/-- The clock is given the speed that the settings got. -/
theorem setSpeed (v : Value) : Action.Keeps (Sound least) (Session.setSpeed v) := by
  intro s hs
  obtain ⟨log, h⟩ := Session.setSpeed_state s v
  rw [h]
  cases hconfig : s.body.config.withSpeed v with
  | error f => exact hs
  | ok config =>
    obtain ⟨k, hk, rfl⟩ := StripConfig.withSpeed_ok hconfig
    have hspeed := s.clock.after_setSpeed_speed (clampSpeed_clamped hk)
    have hleast := s.clock.after_setSpeed_minInterval (.int k)
    exact
      { hs with
        speed := by rw [hspeed]
        range := by rw [hspeed]; exact clampSpeed_range hk
        least := hleast.trans hs.least }

theorem start : Action.Keeps (Sound least) (Timed.start : SessionAction Unit) := by
  intro s hs
  obtain ⟨log, h⟩ := Timed.start_state s
  rw [h]
  exact (hs.clock s.clock.alike_start.speed s.clock.alike_start.minInterval).log _

theorem stop : Action.Keeps (Sound least) (Timed.stop : SessionAction Unit) := by
  intro s hs
  obtain ⟨log, h⟩ := Timed.stop_state s
  rw [h]
  exact (hs.clock s.clock.alike_stop.speed s.clock.alike_stop.minInterval).log _

theorem emit {notify : SessionAction Unit} (hnotify : Action.Keeps (Sound least) notify) :
    Action.Keeps (Sound least) (Timed.emit (Session.render notify)) :=
  Timed.emit_keeps (render hnotify) fun _ _ h => h.log _

theorem reset {notify : SessionAction Unit} (hnotify : Action.Keeps (Sound least) notify) :
    Action.Keeps (Sound least) (Timed.reset (Session.render notify)) := by
  intro s hs
  have hclock := hs.clock (c := s.clock.after .reset) rfl rfl
  exact emit hnotify (Timed.poised .reset s) (hclock.log _)

theorem tick {notify : SessionAction Unit} (hnotify : Action.Keeps (Sound least) notify) :
    Action.Keeps (Sound least) (Timed.tick (Session.render notify)) := by
  intro s hs
  rw [Timed.tick_eq]
  exact emit hnotify (Timed.poised .tick s) (hs.clock rfl rfl)

theorem generateCode : Action.Keeps (Sound least) Session.generateCode := by
  intro s hs
  obtain ⟨log, code, h⟩ := Session.generateCode_state s
  rw [h]
  exact { hs with }

theorem play {notify : SessionAction Unit} (hnotify : Action.Keeps (Sound least) notify) :
    Action.Keeps (Sound least) (Session.play notify) :=
  start.bind fun _ => (render hnotify).bind fun _ => generateCode

theorem applyPrompt {notify : SessionAction Unit} (hnotify : Action.Keeps (Sound least) notify)
    (prompt : Value) : Action.Keeps (Sound least) (Session.applyPrompt notify prompt) :=
  (Action.Keeps.lift _).bind fun p =>
    .bind (.modify fun _ h => h.log _) fun _ =>
      .bind (setPattern hnotify (.id p)) fun _ =>
        .bind (play hnotify) fun _ => .pure p

theorem introduce (h : Sound least s) (id : String) {manner : Manner} (hm : manner.Buildable) :
    Sound least { s with body := s.body.introduce id manner } := by
  unfold Session.introduce
  split
  · exact h
  · refine { h with listeners := fun entry hentry => ?_ }
    rcases List.mem_append.mp hentry with hold | hnew
    · exact h.listeners entry hold
    · rw [List.mem_singleton.mp hnew]
      exact hm

theorem subscribe (id : String) {manner : Manner} (hm : manner.Buildable) :
    Action.Keeps (Sound least) (Session.subscribe id manner) :=
  fun _ hs => { hs.introduce id hm with }

theorem unsubscribe (id : String) {manner : Manner} (hm : manner.Buildable) :
    Action.Keeps (Sound least) (Session.unsubscribe id manner) :=
  fun _ hs => { hs.introduce id hm with }

theorem perform {notify : SessionAction Unit} (hnotify : Action.Keeps (Sound least) notify)
    {op : SessionOp} (hop : op.Buildable) : Action.Keeps (Sound least) (op.perform notify) := by
  cases op with
  | start => exact start.bind fun _ => .pure _
  | stop => exact stop.bind fun _ => .pure _
  | reset => exact (reset hnotify).bind fun _ => .pure _
  | step => exact (tick hnotify).bind fun _ => .pure _
  | play => exact (play hnotify).bind fun _ => .pure _
  | render => exact (render hnotify).bind fun _ => .pure _
  | generateCode => exact generateCode.bind fun _ => .pure _
  | setLedCount v => exact (setLedCount hnotify hop).bind fun _ => .pure _
  | setPattern ref => exact (setPattern hnotify ref).bind fun _ => .pure _
  | setBrightness v => exact (setBrightness hnotify v).bind fun _ => .pure _
  | setSpeed v => exact (setSpeed v).bind fun _ => .pure _
  | applyPrompt v => exact (applyPrompt hnotify v).bind fun _ => .pure _
  | subscribe id manner => exact (subscribe id hop).bind fun _ => .pure _
  | unsubscribe id manner => exact (unsubscribe id hop).bind fun _ => .pure _

/-! ## Listeners -/

theorem mannerOf (h : Sound least s) (id : String) : (s.body.mannerOf id).Buildable := by
  unfold Session.mannerOf
  cases hfound : s.body.listeners.find? (·.1 = id) with
  | none => trivial
  | some entry => exact h.listeners entry (List.mem_of_find?_eq_some hfound)

theorem retire (id : String) :
    Action.Keeps (Sound least) (Session.modify (Session.retire id)) := by
  intro s hs
  refine { hs with listeners := fun entry hentry => ?_ }
  obtain ⟨old, hold, rfl⟩ := List.mem_map.mp hentry
  split
  · trivial
  · exact hs.listeners old hold

theorem performAll {notify : SessionAction Unit} (hnotify : Action.Keeps (Sound least) notify)
    {ops : List SessionOp} (hops : SessionOp.AllBuildable ops) :
    Action.Keeps (Sound least) (Session.performAll notify ops) := by
  induction ops with
  | nil => exact .pure ()
  | cons op rest ih => exact (perform hnotify hops.1).bind fun _ => ih hops.2

theorem call {notify : SessionAction Unit} (hnotify : Action.Keeps (Sound least) notify)
    (id : String) : Action.Keeps (Sound least) (Session.call notify id) := by
  intro s hs
  have hheard : Sound least (s.heardBy id) := { hs with }
  have hmanner := hs.mannerOf id
  rw [Session.call_eq]
  cases hm : s.body.mannerOf id with
  | listen => exact hheard
  | fail => exact hheard
  | act frame ops =>
    rw [hm] at hmanner
    simp only
    split
    · exact (retire id).bind (fun _ => performAll hnotify hmanner) _ hheard
    · exact hheard

theorem serve {notify : SessionAction Unit} (hnotify : Action.Keeps (Sound least) notify)
    (ids : List String) : Action.Keeps (Sound least) (Session.serve notify ids) := by
  induction ids with
  | nil => exact .pure ()
  | cons id rest ih =>
    refine .bind (call hnotify id).attempt fun result => ?_
    cases result with
    | ok _ => exact ih
    | error f => exact .bind (.modify fun _ h => h.log _) fun _ => ih

/-- Telling the listeners keeps the fields in agreement, whatever they do. -/
theorem notifyAll (fuel : Nat) : Action.Keeps (Sound least) (Session.notifyAll fuel) := by
  induction fuel with
  | zero => exact fun s hs => serve (.pure ()) s.body.subscribers s hs
  | succ fuel ih => exact fun s hs => serve ih s.body.subscribers s hs

/-! ## Steps -/

theorem step (h : Sound least s) {todo : SessionStep} (htodo : todo.Buildable) :
    Sound least (s.step todo).2 := by
  cases todo with
  | op op => exact (perform (notifyAll _) htodo s h).settle
  | elapse ms =>
    exact Timed.advance_keeps (render (notifyAll _)) (fun _ _ h => h.log _)
      (fun _ _ h hspeed hleast => h.clock hspeed hleast) ms s h

theorem steps (h : Sound least s) {todo : List SessionStep}
    (htodo : ∀ step ∈ todo, step.Buildable) : Sound least (s.steps todo) := by
  induction todo generalizing s with
  | nil => exact h
  | cons first rest ih =>
    have hfirst := h.step (htodo first List.mem_cons_self)
    exact ih hfirst fun step hstep => htodo step (List.mem_cons_of_mem first hstep)

end SessionState.Sound

theorem SessionSetup.create_sound {setup : SessionSetup} {count brightness speed : Value}
    (hconfig : StripConfig.clamped count brightness speed = .ok setup.config) {k : Int}
    (hk : setup.minInterval.toInt = .ok k) {s : SessionState} (hs : setup.create = .ok s) :
    SessionState.Sound (max 1 k).toNat s := by
  obtain ⟨n, b, v, hn, hb, hv, hsettings⟩ := StripConfig.clamped_ok hconfig
  obtain ⟨leds, clock, hleds, hclock, rfl⟩ := SessionSetup.create_ok hs
  obtain ⟨least, hleast, hmin, hspeed, -⟩ := Clock.create_spec hclock
  rw [hk] at hleast
  cases hleast
  rw [hsettings] at hspeed hleds
  rw [clampSpeed_clamped hv] at hspeed
  cases hspeed
  have hpos := clampLedCount_pos hn
  exact
    { count := ⟨n, by rw [hsettings], hpos, blackLeds_length hpos hleds⟩
      brightness := ⟨b, by rw [hsettings], clampBrightness_range hb⟩
      speed := by rw [hsettings]
      range := clampSpeed_range hv
      least := hmin
      pattern := setup.pattern.normalize_kept
      listeners := fun _ hentry => absurd hentry List.not_mem_nil }

/-- **The fields of a session agree.** Take a session of clamped settings, any pattern and any least
interval that is read as an integer, and any steps, failing ones and what listeners do included; only
where the number of LEDs is set, there has to be room for them. Then there are as many LEDs as the
settings say, the settings are in range, the clock has their speed and ticks at the interval of that
speed, and the pattern is one or a text that names none. -/
theorem session_fields_agree {setup : SessionSetup} {count brightness speed : Value}
    (hconfig : StripConfig.clamped count brightness speed = .ok setup.config) {k : Int}
    (hk : setup.minInterval.toInt = .ok k) {s : SessionState} (hs : setup.create = .ok s)
    {todo : List SessionStep} (htodo : ∀ step ∈ todo, step.Buildable) :
    let t := s.steps todo
    ∃ n b v : Int, t.body.config = ⟨.int n, .int b, .int v⟩ ∧
      1 ≤ n ∧ 10 ≤ b ∧ b ≤ 100 ∧ 0 ≤ v ∧ v ≤ 100 ∧
      (t.body.leds.length : Int) = n ∧
      t.clock.speed = v ∧ (t.clock.interval : Int) = max (max 1 k) (100 - v) ∧
      ((∃ p, t.body.pattern = .id p) ∨
        t.body.pattern.IsText ∧ t.body.pattern.resolve = none) := by
  intro t
  have h := (SessionSetup.create_sound hconfig hk hs).steps htodo
  obtain ⟨n, hn, hpos, hlength⟩ := h.count
  obtain ⟨b, hb, hlow, hhigh⟩ := h.brightness
  have hinterval : (t.clock.interval : Int) = max (max 1 k) (100 - t.clock.speed) := by
    have hrange := h.range
    unfold Clock.interval
    rw [h.least]
    omega
  refine ⟨n, b, t.clock.speed, ?_, hpos, hlow, hhigh, h.range.1, h.range.2, hlength, rfl,
    hinterval, h.pattern⟩
  rw [← hn, ← hb, ← h.speed]

/-- A strip of two LEDs without a pattern, which ticks every three milliseconds. -/
def twoLeds : SessionSetup where
  config := ⟨.int 2, .int 10, .int 97⟩
  pattern := .value .null
  stream := .cycle #[]

/-- Starts, grows the strip from inside a tick, and fails to set a speed and a count. -/
def growingSteps : List SessionStep :=
  [.op (.subscribe "view" (.act (some 2) [.setLedCount (.int 3), .setSpeed (.text "fast")])),
   .op .start, .elapse 7, .op (.setLedCount (.int (-1)))]

theorem session_fields_agree_growing :
    StripConfig.clamped (.int 2) (.int 5) (.int 97) = .ok twoLeds.config ∧
    twoLeds.minInterval.toInt = .ok 1 ∧
    ∃ s, twoLeds.create = .ok s ∧ (∀ step ∈ growingSteps, step.Buildable) ∧
      (s.steps growingSteps).body.leds.length = 3 ∧
      ∃ n b v : Int, (s.steps growingSteps).body.config = ⟨.int n, .int b, .int v⟩ ∧
        ((s.steps growingSteps).body.leds.length : Int) = n := by
  have hconfig : StripConfig.clamped (.int 2) (.int 5) (.int 97) = .ok twoLeds.config := rfl
  have hk : twoLeds.minInterval.toInt = .ok 1 := rfl
  have htodo : ∀ step ∈ growingSteps, step.Buildable := by
    simp only [growingSteps, List.forall_mem_cons]
    refine ⟨⟨fun n hn => ?_, trivial, trivial⟩, trivial, trivial, fun n hn => ?_, ?_⟩
    · cases hn
      exact ⟨_, rfl⟩
    · cases hn
    · exact fun _ h => absurd h List.not_mem_nil
  refine ⟨hconfig, hk, _, rfl, htodo, by decide +kernel, ?_⟩
  obtain ⟨n, b, v, hsettings, -, -, -, -, -, hlength, -⟩ :=
    session_fields_agree hconfig hk rfl htodo
  exact ⟨n, b, v, hsettings, hlength⟩

end LedStudio
