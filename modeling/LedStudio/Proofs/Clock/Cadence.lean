import LedStudio.Proofs.Clock.Diary
import LedStudio.Proofs.Strip

/-!
# The pending tick

When the next tick is due can be read off the past alone: a running clock ticks one interval after
it was last armed, and it is armed by being started, by a change of its speed, and by each tick.

* `pending_tick_on_schedule` — after every step the clock's one pending tick is the one that the
  past tells of, and every tick that ever fired was.
-/

namespace LedStudio

/-- What the past says of a clock: its speed, whether it runs, and when it was last armed. -/
structure Beat where
  speed : Int
  running : Bool := false
  armed : Nat := 0

namespace Beat

/-- A start arms an idle clock, a change of speed a running one, and a tick arms the next. -/
def on (b : Beat) (time : Nat) : ClockEvent → Beat
  | .called .start => if b.running then b else { b with running := true, armed := time }
  | .called .stop | .called .reset => { b with running := false }
  | .called (.setSpeed v) =>
    match clampSpeed v with
    | .error _ => b
    | .ok new =>
      if new = b.speed then b
      else { b with speed := new, armed := if b.running then time else b.armed }
  | .fired => { b with armed := time }
  | .called .tick | .shown _ => b

/-- The past of a clock that stood still at some speed. -/
def of (speed : Int) : Chronicle → Beat
  | [] => { speed }
  | (time, e) :: past => (of speed past).on time e

end Beat

/-- No tick fires but the armed one: the clock runs, and its interval has passed since the arming.
A cadence that was stopped or armed anew is therefore never heard of again. -/
def OnTime (c : Clock) : Chronicle → Prop
  | [] => True
  | (time, .fired) :: past =>
    ((Beat.of c.speed past).running = true ∧
      time = (Beat.of c.speed past).armed +
        { c with speed := (Beat.of c.speed past).speed }.interval) ∧ OnTime c past
  | (_, .called _) :: past | (_, .shown _) :: past => OnTime c past

/-- What ticks is what the past says should. -/
def Cadence.Fits (now interval : Nat) (b : Beat) : Cadence → Prop
  | .idle => b.running = false
  | .fresh | .ticking _ => b.running = true ∧ b.armed = now
  | .asleep left _ _ => b.running = true ∧ now + left = b.armed + interval
  | .stalled => False

/-- The clock, which was `c` at first, agrees with its past. -/
structure InStep (c : Clock) (m : Instant) : Prop where
  least : m.clock.minInterval = c.minInterval
  hasLoop : m.clock.hasLoop = true
  speed : m.clock.speed = (Beat.of c.speed m.past).speed
  range : 0 ≤ m.clock.speed ∧ m.clock.speed ≤ 100
  fits : m.clock.cadence.Fits m.now m.clock.interval (Beat.of c.speed m.past)
  onTime : OnTime c m.past

theorem Cadence.Fits.running {now interval : Nat} {b : Beat} {c : Clock}
    (h : c.cadence.Fits now interval b) : c.isRunning = b.running := by
  unfold Clock.isRunning
  cases hc : c.cadence <;> simp_all [Cadence.Fits]

theorem Cadence.Fits.idle {now interval : Nat} {b : Beat} {cadence : Cadence}
    (h : cadence.Fits now interval b) (hb : b.running = false) : cadence = .idle := by
  cases cadence <;> simp_all [Cadence.Fits]

namespace InStep

variable {c : Clock} {m : Instant}

theorem shown (h : InStep c m) (frame : Nat) :
    InStep c { m with past := (m.now, .shown frame) :: m.past } :=
  { h with }

/-! ## Calls -/

/-- A call that changes nothing but the clock and what the past says of it. -/
theorem called (h : InStep c m) {op : ClockOp} {b : Beat}
    (hb : (Beat.of c.speed m.past).on m.now (.called op) = b) {clock : Clock}
    (hleast : clock.minInterval = m.clock.minInterval) (hloop : clock.hasLoop = m.clock.hasLoop)
    (hspeed : clock.speed = b.speed) (hrange : 0 ≤ clock.speed ∧ clock.speed ≤ 100)
    (hfits : clock.cadence.Fits m.now clock.interval b) :
    InStep c ⟨clock, m.now, (m.now, .called op) :: m.past⟩ where
  least := hleast.trans h.least
  hasLoop := hloop.trans h.hasLoop
  speed := hspeed.trans (congrArg Beat.speed hb.symm)
  range := hrange
  fits := by rw [Beat.of, hb]; exact hfits
  onTime := h.onTime

theorem start (h : InStep c m) :
    InStep c ⟨m.clock.after .start, m.now, (m.now, .called .start) :: m.past⟩ := by
  have hr := h.fits.running
  cases hb : (Beat.of c.speed m.past).running with
  | true =>
    have hc : m.clock.after .start = m.clock := by simp [Clock.after, hr, hb]
    rw [hc]
    exact h.called (by simp [Beat.on, hb]) rfl rfl h.speed h.range h.fits
  | false =>
    have hc : m.clock.after .start = { m.clock with cadence := .fresh } := by
      simp [Clock.after, hr, hb, h.hasLoop]
    rw [hc]
    exact h.called (b := { Beat.of c.speed m.past with running := true, armed := m.now })
      (by simp [Beat.on, hb]) rfl rfl h.speed h.range ⟨rfl, rfl⟩

theorem stop (h : InStep c m) :
    InStep c ⟨m.clock.after .stop, m.now, (m.now, .called .stop) :: m.past⟩ :=
  h.called rfl rfl rfl h.speed h.range rfl

theorem reset (h : InStep c m) :
    InStep c ⟨m.clock.after .reset, m.now, (m.now, .called .reset) :: m.past⟩ :=
  h.called rfl rfl rfl h.speed h.range rfl

theorem tick (h : InStep c m) :
    InStep c ⟨m.clock.after .tick, m.now, (m.now, .called .tick) :: m.past⟩ :=
  h.called rfl rfl rfl h.speed h.range h.fits

theorem setSpeed (h : InStep c m) (v : Value) :
    InStep c ⟨m.clock.after (.setSpeed v), m.now, (m.now, .called (.setSpeed v)) :: m.past⟩ := by
  have hr := h.fits.running
  cases hv : clampSpeed v with
  | error f =>
    have hc : m.clock.after (.setSpeed v) = m.clock := by simp [Clock.after, hv]
    rw [hc]
    exact h.called (by simp [Beat.on, hv]) rfl rfl h.speed h.range h.fits
  | ok new =>
    have hrange := clampSpeed_range hv
    by_cases hs : new = (Beat.of c.speed m.past).speed
    · have hc : m.clock.after (.setSpeed v) = m.clock := by simp [Clock.after, hv, hs, h.speed]
      rw [hc]
      exact h.called (by simp [Beat.on, hv, hs]) rfl rfl h.speed h.range h.fits
    · cases hb : (Beat.of c.speed m.past).running with
      | true =>
        have hc : m.clock.after (.setSpeed v) =
            { m.clock.cancel with speed := new, cadence := .fresh } := by
          simp [Clock.after, hv, hs, h.speed, hr, hb]
        rw [hc]
        exact h.called (b := { Beat.of c.speed m.past with speed := new, armed := m.now })
          (by simp [Beat.on, hv, hs, hb]) rfl rfl rfl hrange ⟨hb, rfl⟩
      | false =>
        have hc : m.clock.after (.setSpeed v) = { m.clock with speed := new } := by
          simp [Clock.after, hv, hs, h.speed, hr, hb]
        have hidle := h.fits.idle hb
        rw [hc]
        refine h.called (b := { Beat.of c.speed m.past with speed := new })
          (by simp [Beat.on, hv, hs, hb]) rfl rfl rfl hrange ?_
        simp only [hidle]
        exact hb

theorem call {n : Instant} (h : InStep c m) (hcall : Instant.Call m n) : InStep c n := by
  cases hcall with
  | quiet op hs =>
    cases op with
    | start => exact h.start
    | stop => exact h.stop
    | setSpeed v => exact h.setSpeed v
    | reset => simp [ClockOp.shows] at hs
    | tick => simp [ClockOp.shows] at hs
  | shows op hs =>
    cases op with
    | reset => exact h.reset.shown 0
    | tick => exact h.tick.shown (m.clock.frame + 1)
    | _ => simp [ClockOp.shows] at hs

theorem calls {n : Instant} (h : InStep c m) (hcalls : Instant.Calls m n) : InStep c n := by
  induction hcalls with
  | refl => exact h
  | tail _ hcall ih => exact ih.call hcall

/-! ## Time -/

theorem struck (h : InStep c m) {left ticks : Nat} {pos : 0 < left}
    (hc : m.clock.cadence = .asleep left pos ticks) : InStep c (m.struck left ticks) := by
  have hfits := h.fits
  rw [hc] at hfits
  obtain ⟨hrun, hdue⟩ := hfits
  have hinterval : m.clock.interval =
      { c with speed := (Beat.of c.speed m.past).speed }.interval := by
    simp only [Clock.interval, h.least, h.speed]
  exact { h with
    fits := ⟨hrun, rfl⟩
    onTime := ⟨⟨hrun, by rw [hdue, hinterval]⟩, h.onTime⟩ }

end InStep

/-- The least interval is a number of seconds, so that every interval can be slept for. -/
def Clock.CanSleep (c : Clock) : Prop := ∃ x, Double.quotient c.minInterval 1000 = .ok x

theorem quotient_isOk : ∀ n ≤ 100, (Double.quotient (n : Nat) 1000).isOk = true := by
  decide +kernel

theorem quotient_of_le_hundred {n : Nat} (h : n ≤ 100) :
    ∃ x, Double.quotient n 1000 = .ok x := by
  have hok := quotient_isOk n h
  cases hx : Double.quotient n 1000 with
  | ok x => exact ⟨x, rfl⟩
  | error f => simp [hx, Except.isOk, Except.toBool] at hok

namespace InStep

variable {c : Clock} {m : Instant}

theorem seconds (h : InStep c m) (hc : c.CanSleep) : ∃ x, m.clock.seconds = .ok x := by
  have hor : m.clock.interval = c.minInterval ∨ m.clock.interval ≤ 100 := by
    have hrange := h.range
    simp only [Clock.interval, h.least]
    omega
  obtain heq | hle := hor
  · rw [Clock.seconds, heq]
    exact hc
  · exact quotient_of_le_hundred hle

theorem sleep (h : InStep c m) (hc : c.CanSleep) (hrun : (Beat.of c.speed m.past).running = true)
    (harmed : (Beat.of c.speed m.past).armed = m.now) (ticks : Nat) :
    InStep c { m with clock := m.clock.sleep ticks } := by
  obtain ⟨x, hx⟩ := h.seconds hc
  have hs : m.clock.sleep ticks =
      { m.clock with cadence := .asleep m.clock.interval m.clock.interval_pos ticks } := by
    simp [Clock.sleep, hx]
  rw [hs]
  exact { h with fits := ⟨hrun, by rw [harmed]; rfl⟩ }

theorem resume (h : InStep c m) (hc : c.CanSleep) (ticks : Nat) :
    InStep c { m with clock := m.clock.resume ticks } := by
  have hfits := h.fits
  unfold Clock.resume
  cases hm : m.clock.cadence <;> simp only [hm] at hfits ⊢
  case ticking => exact h.sleep hc hfits.1 hfits.2 (ticks + 1)
  all_goals exact h

theorem settled (h : InStep c m) (hc : c.CanSleep) :
    InStep c { m with clock := m.clock.settled } := by
  have hfits := h.fits
  have hbegin : InStep c { m with clock := m.clock.beginFresh } := by
    unfold Clock.beginFresh
    cases hm : m.clock.cadence <;> simp only [hm] at hfits ⊢
    case fresh => exact h.sleep hc hfits.1 hfits.2 0
    all_goals exact h
  exact { hbegin with }

end InStep

/-! ## Between two steps -/

/-- What ticks between two steps. -/
def Cadence.AtRest : Cadence → Prop
  | .idle | .asleep .. => True
  | _ => False

/-- A call never brings about that a tick is being made. -/
theorem Clock.ticking_of_after {c : Clock} {op : ClockOp} {ticks : Nat}
    (h : (c.after op).cadence = .ticking ticks) : c.cadence = .ticking ticks := by
  cases op with
  | start => simp only [Clock.after] at h; split at h <;> simp_all
  | stop => simp [Clock.after, Clock.cancel] at h
  | reset => simp [Clock.after, Clock.cancel] at h
  | tick => exact h
  | setSpeed v =>
    simp only [Clock.after] at h
    split at h
    · exact h
    · split at h
      · exact h
      · split at h <;> simp_all

theorem ticking_of_calls {m n : Instant} {ticks : Nat} (hcalls : Instant.Calls m n)
    (h : n.clock.cadence = .ticking ticks) : m.clock.cadence = .ticking ticks := by
  induction hcalls with
  | refl => exact h
  | tail _ hcall ih =>
    cases hcall with
    | quiet op _ => exact ih (Clock.ticking_of_after h)
    | shows op _ => exact ih (Clock.ticking_of_after h)

theorem Clock.resume_not_ticking (c : Clock) (ticks k : Nat) :
    (c.resume ticks).cadence ≠ .ticking k := by
  unfold Clock.resume
  cases hc : c.cadence <;> simp only [hc, ne_eq, reduceCtorEq, not_false_eq_true]
  unfold Clock.sleep
  split <;> simp

namespace InStep

variable {c : Clock} {m n : Instant}

theorem settled_atRest (h : InStep c m) (hc : c.CanSleep)
    (hnot : ∀ k, m.clock.cadence ≠ .ticking k) : m.clock.settled.cadence.AtRest := by
  have hfits := h.fits
  obtain ⟨x, hx⟩ := h.seconds hc
  unfold Clock.settled Clock.beginFresh
  cases hm : m.clock.cadence with
  | idle => simp [Cadence.AtRest, hm]
  | asleep left pos ticks => simp [Cadence.AtRest, hm]
  | fresh => simp [Cadence.AtRest, Clock.sleep, hx]
  | ticking ticks => exact absurd hm (hnot ticks)
  | stalled =>
    rw [hm] at hfits
    exact hfits.elim

theorem step (h : InStep c m) (hrest : m.clock.cadence.AtRest) (hc : c.CanSleep)
    (hstep : Instant.Step m n) : InStep c n ∧ n.clock.cadence.AtRest := by
  cases hstep with
  | operate hcalls =>
    have hn := h.calls hcalls
    refine ⟨hn.settled hc, hn.settled_atRest hc fun k hk => ?_⟩
    rw [ticking_of_calls hcalls hk] at hrest
    exact hrest
  | fire hdue hcalls =>
    rename_i ticks
    have hn := ((h.struck hdue).calls hcalls).resume hc ticks
    exact ⟨hn.settled hc, hn.settled_atRest hc (Clock.resume_not_ticking _ ticks)⟩
  | wait hlt hdue =>
    have hfits := h.fits
    rw [hdue] at hfits
    obtain ⟨hrun, heq⟩ := hfits
    have hinterval : m.clock.interval = max m.clock.minInterval (100 - m.clock.speed).toNat := rfl
    refine ⟨{ h with fits := ⟨hrun, ?_⟩ }, trivial⟩
    simp only [Clock.interval]
    omega
  | idle ms hdue =>
    have hfits := h.fits
    cases hm : m.clock.cadence with
    | idle =>
      rw [hm] at hfits
      exact ⟨{ h with fits := by simp only [hm]; exact hfits }, hm ▸ hrest⟩
    | asleep left pos ticks =>
      rw [hm] at hdue
      cases hdue
    | _ =>
      rw [hm] at hrest
      exact hrest.elim

theorem steps (h : InStep c m) (hrest : m.clock.cadence.AtRest) (hc : c.CanSleep)
    (hsteps : Instant.Steps m n) : InStep c n ∧ n.clock.cadence.AtRest := by
  induction hsteps with
  | refl => exact ⟨h, hrest⟩
  | tail _ hstep ih => exact ih.1.step ih.2 hc hstep

theorem due_of_running (h : InStep c m) (hrest : m.clock.cadence.AtRest)
    (hrun : m.clock.isRunning = true) :
    ∃ left, m.clock.cadence.due? = some left ∧ 0 < left ∧
      m.now + left = (Beat.of c.speed m.past).armed + m.clock.interval := by
  have hfits := h.fits
  cases hm : m.clock.cadence with
  | asleep left pos ticks =>
    rw [hm] at hfits
    exact ⟨left, rfl, pos, hfits.2⟩
  | idle => simp [Clock.isRunning, hm] at hrun
  | _ =>
    rw [hm] at hrest
    exact hrest.elim

end InStep

theorem Clock.idle_of_not_running {c : Clock} (h : c.isRunning = false) : c.cadence = .idle := by
  simpa [Clock.isRunning] using h

/-- **The pending tick is on schedule.** Take a clock of any speed and least interval that can be
slept for, any callback, and any steps. Whether the clock runs is what its past says. A running
clock has one pending tick, due later than now, one interval after the clock was last armed; an
idle one has none, and time does nothing to it. And every tick that fired was the armed one. -/
theorem pending_tick_on_schedule {α : Type} (r : Reaction α) (body : α) {speed least : Value}
    {c : Clock} (hc : Clock.create true speed least = .ok c) (hsleep : c.CanSleep)
    (todo : List Scripted.Step) :
    let s := Diary.steps r (Diary.start c body) todo
    let b := Beat.of c.speed s.body.past
    Diary.forget s = Timed.steps r.run ⟨c, [], body⟩ todo ∧
    s.body.now = (todo.map Diary.duration).sum ∧
    s.clock.isRunning = b.running ∧
    (s.clock.isRunning = true → ∃ left, s.clock.cadence.due? = some left ∧ 0 < left ∧
      s.body.now + left = b.armed + s.clock.interval) ∧
    (s.clock.isRunning = false → s.clock.cadence.due? = none ∧ ∀ ms,
      Timed.advance r.run ms (Diary.forget s) = Diary.forget s ∧
      (Diary.step r s (.advance ms)).body.past = s.body.past) ∧
    OnTime c s.body.past := by
  intro s b
  obtain ⟨n, -, -, hspeed, hloop, -, hidle⟩ := Clock.create_spec hc
  have hstart : InStep c (Diary.instant (Diary.start c body)) :=
    { least := rfl, hasLoop := hloop, speed := rfl, range := clampSpeed_range hspeed
      fits := by simp only [Diary.instant, Diary.start, hidle]; rfl
      onTime := trivial }
  have hrest : (Diary.instant (Diary.start c body)).clock.cadence.AtRest := by
    simp only [Diary.instant, Diary.start, hidle]
    trivial
  obtain ⟨hin, hat⟩ := hstart.steps hrest hsleep (Diary.steps_instant r todo _)
  refine ⟨(Diary.forget_steps r todo _).symm, ?_, hin.fits.running, hin.due_of_running hat,
    fun hr => ?_, hin.onTime⟩
  · rw [Diary.steps_now]
    exact Nat.zero_add _
  · have hdue : s.clock.cadence.due? = none := by rw [Clock.idle_of_not_running hr]; rfl
    refine ⟨hdue, fun ms => ⟨Timed.advance_idle r.run ms (s := Diary.forget s) hdue, ?_⟩⟩
    simp only [Diary.step, Diary.elapse_idle r ms hdue]
    rfl

/-- Slows the clock down from inside the second tick. -/
def slowing : Reaction Unit :=
  .look fun s =>
    if s.clock.frame = 2 then .operate (.setSpeed (.int 95)) .done fun _ => .done else .done

/-- Ticks at 3 and 6; the second one makes the interval five milliseconds, and the next tick is due
at 11. -/
theorem pending_tick_slowing :
    let c : Clock := ⟨97, 1, Nat.one_pos, 0, .idle, [], true⟩
    let s := Diary.steps slowing (Diary.start c ()) [.op .start, .advance 7]
    Clock.create true (.int 97) (.int 1) = .ok c ∧ c.CanSleep ∧
    s.clock.isRunning = true ∧ s.clock.cadence.due? = some 4 ∧
    ∃ left, s.clock.cadence.due? = some left ∧ 0 < left ∧
      s.body.now + left = (Beat.of c.speed s.body.past).armed + s.clock.interval := by
  intro c s
  have hsleep : c.CanSleep := quotient_of_le_hundred (by decide)
  have hc : Clock.create true (.int 97) (.int 1) = .ok c := rfl
  have hrun : s.clock.isRunning = true := by decide +kernel
  have h := pending_tick_on_schedule slowing () hc hsleep [.op .start, .advance 7]
  exact ⟨hc, hsleep, hrun, by decide +kernel, h.2.2.2.1 hrun⟩

end LedStudio
