import LedStudio.Clock.Script
import LedStudio.Proofs.Action

/-!
# Operations on a clock

An operation is described apart from what the clock drives: it changes the clock by `Clock.after`,
and a tick and a rewinding then call the frame callback once, on the changed clock.

* `create_spec` — how a clock begins.
* `perform_quiet`, `perform_shows` — what an operation does.
* `fire_eq`, `advance_due`, `advance_early`, `advance_idle` — what the passing of time does.
-/

namespace LedStudio

theorem Clock.create_spec {hasLoop : Bool} {speed least : Value} {c : Clock}
    (h : Clock.create hasLoop speed least = .ok c) :
    ∃ n, least.toInt = .ok n ∧ c.minInterval = (max 1 n).toNat ∧
      clampSpeed speed = .ok c.speed ∧ c.hasLoop = hasLoop ∧ c.frame = 0 ∧ c.cadence = .idle := by
  unfold Clock.create at h
  cases hn : least.toInt with
  | error f => simp [hn, bind, Except.bind] at h
  | ok n =>
    cases hs : clampSpeed speed with
    | error f => simp [hn, hs, bind, Except.bind] at h
    | ok k =>
      simp only [hn, hs, bind, Except.bind, pure, Except.pure, Except.ok.injEq] at h
      subst h
      exact ⟨n, rfl, rfl, rfl, rfl, rfl, rfl⟩

theorem Cadence.due?_eq_none {cadence : Cadence}
    (h : ∀ left pos ticks, cadence = .asleep left pos ticks → False) : cadence.due? = none := by
  cases cadence with
  | asleep left pos ticks => exact (h left pos ticks rfl).elim
  | _ => rfl

/-- The clock after an operation, before the callback is called. -/
def Clock.after (c : Clock) : ClockOp → Clock
  | .start => if c.isRunning || !c.hasLoop then c else { c with cadence := .fresh }
  | .stop => c.cancel
  | .reset => { c.cancel with frame := 0 }
  | .tick => { c with frame := c.frame + 1 }
  | .setSpeed v =>
    match clampSpeed v with
    | .error _ => c
    | .ok new =>
      if new = c.speed then c
      else if c.isRunning then { c.cancel with speed := new, cadence := .fresh }
      else { c with speed := new }

/-- The clock once the event loop has run. -/
def Clock.settled (c : Clock) : Clock := { c.beginFresh with cancelled := [] }

/-- The second clock differs from the first one only in what ticks. -/
structure Clock.Alike (c d : Clock) : Prop where
  speed : d.speed = c.speed
  minInterval : d.minInterval = c.minInterval
  frame : d.frame = c.frame

namespace Clock

theorem alike_start (c : Clock) : c.Alike (c.after .start) := by
  simp only [after]
  split <;> exact ⟨rfl, rfl, rfl⟩

theorem alike_stop (c : Clock) : c.Alike (c.after .stop) := ⟨rfl, rfl, rfl⟩

theorem after_setSpeed_speed (c : Clock) {v : Value} {new : Int} (h : clampSpeed v = .ok new) :
    (c.after (.setSpeed v)).speed = new := by
  simp only [after, h]
  split
  · exact (‹new = c.speed›).symm
  · split <;> rfl

theorem after_setSpeed_minInterval (c : Clock) (v : Value) :
    (c.after (.setSpeed v)).minInterval = c.minInterval := by
  simp only [after]
  split
  · rfl
  · split
    · rfl
    · split <;> rfl

theorem after_setSpeed_isRunning (c : Clock) (v : Value) :
    (c.after (.setSpeed v)).isRunning = c.isRunning := by
  simp only [after]
  split
  · rfl
  · split
    · rfl
    · split
      · rename_i hrunning
        rw [hrunning]
        rfl
      · rfl

theorem alike_resume (c : Clock) (ticks : Nat) : c.Alike (c.resume ticks) := by
  unfold resume
  split <;> exact ⟨rfl, rfl, rfl⟩

theorem alike_settled (c : Clock) : c.Alike c.settled := by
  unfold settled beginFresh
  split <;> exact ⟨rfl, rfl, rfl⟩

theorem isRunning_settled (c : Clock) : c.settled.isRunning = c.isRunning := by
  unfold settled beginFresh isRunning
  split
  · rename_i h
    rw [h]
    simp only [sleep]
    split <;> rfl
  · rfl

theorem interval_settled (c : Clock) : c.settled.interval = c.interval := by
  unfold interval
  rw [c.alike_settled.speed, c.alike_settled.minInterval]

end Clock

/-- The operations that call the callback. -/
def ClockOp.shows : ClockOp → Bool
  | .reset | .tick => true
  | _ => false

/-- Only operations that call the callback change the frame. -/
theorem Clock.after_frame (c : Clock) {op : ClockOp} (h : op.shows = false) :
    (c.after op).frame = c.frame := by
  cases op with
  | start => exact c.alike_start.frame
  | stop => exact c.alike_stop.frame
  | reset => simp [ClockOp.shows] at h
  | tick => simp [ClockOp.shows] at h
  | setSpeed v =>
    simp only [Clock.after]
    split
    · rfl
    · split
      · rfl
      · split <;> rfl

namespace Timed

variable {α : Type}

theorem emit_result (callback : Callback α) (s : Timed α) : (emit callback s).1 = .ok () := by
  unfold emit
  split <;> rfl

theorem emit_clock (callback : Callback α) (s : Timed α) :
    (emit callback s).2.clock = (callback s).2.clock := by
  unfold emit
  split <;> rename_i h <;> simp [h, note, Action.modify]

theorem emit_body (callback : Callback α) (s : Timed α) :
    (emit callback s).2.body = (callback s).2.body := by
  unfold emit
  split <;> rename_i h <;> simp [h, note, Action.modify]

/-- An action that goes on after the callback was called goes on with what the callback left. -/
theorem emit_andThen {β : Type} (callback : Callback α) (next : Unit → Action (Timed α) β)
    (s : Timed α) :
    Action.andThen (emit callback) next s = next () (emit callback s).2 := by
  have h := emit_result callback s
  unfold Action.andThen
  split <;> rename_i heq <;> simp_all

/-- An operation works on the clock alone: what it answers and what it adds to the log hang on the
clock, and neither the body nor the callback has a part in it. -/
def Quiet (op : ClockOp) : Prop :=
  ∃ (answer : Clock → Outcome (Option Nat)) (said : Clock → Log),
    ∀ {α : Type} (callback : Callback α) (s : Timed α), op.perform callback s =
      (answer s.clock, { s with clock := s.clock.after op, log := s.log ++ said s.clock })

theorem start_quiet : Quiet .start := by
  refine ⟨fun c => if c.isRunning || c.hasLoop then .ok none else .error .noEventLoop,
    fun c => if c.isRunning || !c.hasLoop then [] else [⟨.clock, .info, "Clock started",
      [detail "frame" (toString c.frame), detail "interval_ms" (toString c.interval)]⟩], ?_⟩
  intro α callback s
  simp only [ClockOp.perform, Timed.start, bind, Action.andThen, getClock, pure, Clock.after]
  by_cases hr : s.clock.isRunning = true
  · simp [hr]
  · by_cases hl : s.clock.hasLoop = true <;>
      simp [hr, hl, Action.fail, Action.andThen, setClock, note, Action.modify]

theorem stop_quiet : Quiet .stop := by
  refine ⟨fun _ => .ok none, fun c => if c.isRunning then [⟨.clock, .info, "Clock stopped",
    [detail "frame" (toString c.frame)]⟩] else [], ?_⟩
  intro α callback s
  simp only [ClockOp.perform, Timed.stop, bind, Action.andThen, getClock, setClock, pure,
    Clock.after]
  by_cases hr : s.clock.isRunning = true <;> simp [hr, note, Action.modify]

theorem setSpeed_quiet (v : Value) : Quiet (.setSpeed v) := by
  refine ⟨fun _ => (clampSpeed v).map fun _ => none, fun c =>
    match clampSpeed v with
    | .error _ => []
    | .ok new =>
      if new = c.speed then [] else [⟨.clock, .debug, "Clock speed changed",
        [detail "speed" (toString new), change "interval_ms" (toString c.interval)
          (toString (c.after (.setSpeed v)).interval)]⟩], ?_⟩
  intro α callback s
  simp only [ClockOp.perform, Timed.setSpeed, bind, Action.andThen, getClock, pure, Action.lift,
    Clock.after]
  cases clampSpeed v with
  | error f => simp [Except.map]
  | ok new =>
    by_cases hs : new = s.clock.speed
    · simp [hs, Except.map]
    · by_cases hr : s.clock.isRunning = true <;>
        simp [hs, hr, Action.andThen, setClock, note, Action.modify, Except.map]

/-- An operation that does not call the callback works on the clock alone. -/
theorem perform_quiet {op : ClockOp} (h : op.shows = false) : Quiet op := by
  cases op with
  | start => exact start_quiet
  | stop => exact stop_quiet
  | setSpeed v => exact setSpeed_quiet v
  | reset => simp [ClockOp.shows] at h
  | tick => simp [ClockOp.shows] at h

/-! Outside of `ClockOp.perform`, the operations leave the same state. -/

/-- The callback of a clock that drives nothing. -/
def noCallback : Callback α := fun s => (.ok (), s)

theorem start_state (s : Timed α) : ∃ log,
    (start s).2 = { s with clock := s.clock.after .start, log := s.log ++ log } := by
  obtain ⟨answer, said, h⟩ := start_quiet
  refine ⟨said s.clock, ?_⟩
  rw [← Action.andThen_pure_snd start (fun _ => (none : Option Nat)) s]
  exact congrArg Prod.snd (h noCallback s)

theorem stop_state (s : Timed α) : ∃ log,
    (stop s).2 = { s with clock := s.clock.after .stop, log := s.log ++ log } := by
  obtain ⟨answer, said, h⟩ := stop_quiet
  refine ⟨said s.clock, ?_⟩
  rw [← Action.andThen_pure_snd stop (fun _ => (none : Option Nat)) s]
  exact congrArg Prod.snd (h noCallback s)

theorem setSpeed_state (v : Value) (s : Timed α) : ∃ log,
    (setSpeed v s).2 = { s with clock := s.clock.after (.setSpeed v), log := s.log ++ log } := by
  obtain ⟨answer, said, h⟩ := setSpeed_quiet v
  refine ⟨said s.clock, ?_⟩
  rw [← Action.andThen_pure_snd (setSpeed v) (fun _ => (none : Option Nat)) s]
  exact congrArg Prod.snd (h noCallback s)

theorem setSpeed_ok {v : Value} {new : Int} (h : clampSpeed v = .ok new) (s : Timed α) :
    (setSpeed v s).1 = .ok () := by
  simp only [setSpeed, bind, Action.andThen, Action.lift, h, getClock]
  split <;> rfl

/-- The state in which an operation calls the callback. -/
def poised (op : ClockOp) (s : Timed α) : Timed α :=
  { s with
    clock := s.clock.after op
    log := match op with
      | .reset => s.log ++ [⟨.clock, .info, "Clock reset", []⟩]
      | _ => s.log }

theorem tick_eq (callback : Callback α) (s : Timed α) :
    tick callback s = (.ok (emit callback (poised .tick s)).2.clock.frame,
      (emit callback (poised .tick s)).2) :=
  emit_andThen callback (fun _ => do return (← getClock).frame) (poised .tick s)

theorem perform_reset (callback : Callback α) (s : Timed α) :
    ClockOp.reset.perform callback s = (.ok none, (emit callback (poised .reset s)).2) :=
  emit_andThen callback (fun _ => pure none) (poised .reset s)

theorem perform_tick (callback : Callback α) (s : Timed α) :
    ClockOp.tick.perform callback s =
      (.ok (some (emit callback (poised .tick s)).2.clock.frame),
        (emit callback (poised .tick s)).2) := by
  simp only [ClockOp.perform, bind, Action.andThen, tick_eq, pure]

/-- An operation that calls the callback does so once, on the clock that it has changed; whatever
the callback does, the operation does not fail. -/
theorem perform_shows (callback : Callback α) {op : ClockOp} (h : op.shows = true) (s : Timed α) :
    ∃ r, op.perform callback s = (.ok r, (emit callback (poised op s)).2) := by
  cases op with
  | reset => exact ⟨_, perform_reset callback s⟩
  | tick => exact ⟨_, perform_tick callback s⟩
  | start => simp [ClockOp.shows] at h
  | stop => simp [ClockOp.shows] at h
  | setSpeed v => simp [ClockOp.shows] at h

/-! ## Time -/

/-- The state in which the callback is called for a tick that is due. -/
def struck (ticks : Nat) (s : Timed α) : Timed α :=
  { s with clock := { s.clock with cadence := .ticking ticks, frame := s.clock.frame + 1 } }

theorem fire_eq (callback : Callback α) (ticks : Nat) (s : Timed α) :
    fire callback ticks s =
      settle { (emit callback (struck ticks s)).2 with
        clock := (emit callback (struck ticks s)).2.clock.resume ticks } := by
  rw [fire, tick_eq]
  rfl

theorem advance_due (callback : Callback α) {ms : Nat} {s : Timed α} {left : Nat}
    {pos : 0 < left} {ticks : Nat} (h : s.clock.cadence = .asleep left pos ticks)
    (hle : left ≤ ms) :
    advance callback ms s = advance callback (ms - left) (fire callback ticks s) := by
  rw [advance, h]
  simp [hle]

theorem advance_early (callback : Callback α) {ms : Nat} {s : Timed α} {left : Nat}
    {pos : 0 < left} {ticks : Nat} (h : s.clock.cadence = .asleep left pos ticks)
    (hlt : ¬left ≤ ms) :
    advance callback ms s =
      { s with clock := { s.clock with cadence := .asleep (left - ms) (rest_pos hlt) ticks } } := by
  rw [advance, h]
  simp [hlt]

theorem advance_idle (callback : Callback α) (ms : Nat) {s : Timed α}
    (h : s.clock.cadence.due? = none) : advance callback ms s = s := by
  rw [advance]
  split
  · rename_i hc
    simp [hc, Cadence.due?] at h
  · rfl

/-! ## What the callback keeps -/

section

variable {I : Timed α → Prop} {callback : Callback α}

/-- What the callback keeps, and what more records in the log keep, is kept by calling it. -/
theorem emit_keeps (hcallback : Action.Keeps I callback)
    (hlog : ∀ s log, I s → I { s with log := s.log ++ log }) : Action.Keeps I (emit callback) := by
  intro s hs
  have ht := hcallback s hs
  unfold emit
  rcases h : callback s with ⟨_ | _, t⟩
  · rw [h] at ht
    exact hlog t _ ht
  · rwa [h] at ht

/-- What the callback keeps, and what more records in the log and another frame or cadence of the
clock keep, is kept while time passes. -/
theorem advance_keeps (hcallback : Action.Keeps I callback)
    (hlog : ∀ s log, I s → I { s with log := s.log ++ log })
    (hclock : ∀ s (c : Clock), I s → c.speed = s.clock.speed →
      c.minInterval = s.clock.minInterval → I { s with clock := c }) (ms : Nat) (s : Timed α)
    (hs : I s) : I (advance callback ms s) := by
  fun_induction advance callback ms s with
  | case1 ms s left _ ticks _ _ ih =>
    apply ih
    rw [fire_eq]
    have hstruck : I (struck ticks s) := hclock s (struck ticks s).clock hs rfl rfl
    have hshown := emit_keeps hcallback hlog _ hstruck
    generalize (emit callback (struck ticks s)).2 = t at hshown
    have hresumed := t.clock.alike_resume ticks
    have hsettled := (t.clock.resume ticks).alike_settled
    exact hlog _ _ (hclock t _ hshown (hsettled.speed.trans hresumed.speed)
      (hsettled.minInterval.trans hresumed.minInterval))
  | case2 ms s => exact hclock s _ hs rfl rfl
  | case3 ms s => exact hs

end

/-- A step of a clock with any callback, after which the event loop runs. -/
def step (callback : Callback α) (s : Timed α) : Scripted.Step → Timed α
  | .op op => (op.perform callback s).2.settle
  | .advance ms => s.advance callback ms

/-- Steps one after the other. -/
def steps (callback : Callback α) (s : Timed α) (todo : List Scripted.Step) : Timed α :=
  todo.foldl (step callback) s

end Timed

end LedStudio
