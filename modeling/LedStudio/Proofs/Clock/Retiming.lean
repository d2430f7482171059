import LedStudio.Proofs.Clock.Resting

/-!
# Changes of speed

A change of speed replaces the pending tick of a running clock by one that is due an interval from
now, and leaves the frame and the state of the clock alone. The speed that a clock has already, and
a value that is no speed, change nothing.

* `Became.next?_eq` — what a clock goes on to.
* `Became.retimed` — a change of speed, also from within a callback.
* `bursts_sedate` — changes of speed in a row.
* `speed_changes` — the same for every clock that comes up in a run.
-/

namespace LedStudio

namespace Clock

/-- How long it is until the next tick, once a callback in progress is over and the event loop has
run. -/
def next? (c : Clock) : Option Nat := (c.resume 0).settled.cadence.due?

/-- What a change to the speed `new` makes of a clock. -/
structure Retimed (c d : Clock) (new : Int) : Prop where
  speed : d.speed = new
  interval : (d.interval : Int) = max (c.minInterval : Int) (100 - new)
  frame : d.frame = c.frame
  state : d.state = c.state
  idle : c.state = .idle → d.next? = none
  running : c.state = .running → ∃ due, 0 < due ∧ c.next? = some due ∧
    d.next? = some (if new = c.speed then due else d.interval)

variable {c d : Clock}

theorem state_eq_iff : c.state = .idle ↔ c.cadence = .idle := by
  unfold state isRunning
  cases c.cadence <;> simp

theorem state_running_iff : c.state = .running ↔ c.isRunning = true := by
  unfold state
  cases c.isRunning <;> simp

/-- At rest, a clock goes on to its pending tick. -/
theorem next?_of_quiet (h : c.cadence.IsQuiet) : c.next? = c.cadence.due? := by
  have hresume : c.resume 0 = c := by
    unfold resume
    split
    · rename_i hticking
      rw [hticking] at h
      exact h.elim
    · rfl
  rw [next?, hresume, settled_cadence h]

/-- The event loop does nothing to a clock at rest. -/
theorem settled_of_quiet (h : c.cadence.IsQuiet) (hreported : c.cancelled = []) :
    c.settled = c := by
  unfold settled beginFresh
  cases hc : c.cadence with
  | fresh | ticking =>
    rw [hc] at h
    exact h.elim
  | _ => exact hreported ▸ rfl

/-- The event loop goes on to what a clock goes on to. -/
theorem due?_settled (h : ∀ k, c.cadence ≠ .ticking k) : c.settled.cadence.due? = c.next? := by
  unfold next? resume
  split
  · rename_i hticking
    exact absurd hticking (h _)
  · rfl

theorem Retimed.settled {new : Int} (h : Retimed c d new) (hstill : ∀ k, d.cadence ≠ .ticking k) :
    Retimed c d.settled new := by
  have hnext : d.settled.next? = d.next? := by
    rw [next?_of_quiet (settled_isQuiet hstill), due?_settled hstill]
  have hstate : d.settled.state = d.state := by simp only [Clock.state, d.isRunning_settled]
  refine ⟨d.alike_settled.speed.trans h.speed, ?_, d.alike_settled.frame.trans h.frame,
    hstate.trans h.state, fun hidle => hnext.trans (h.idle hidle), fun hrun => ?_⟩
  · rw [d.interval_settled]
    exact h.interval
  · rw [hnext, d.interval_settled]
    exact h.running hrun

namespace Became

/-- **What a clock goes on to**, if it can sleep: the pending tick, or else an interval's sleep. -/
theorem next?_eq (h : c.Became d) (hc : c.CanSleep) : d.next? =
    match d.cadence with
    | .idle | .stalled => none
    | .fresh | .ticking _ => some d.interval
    | .asleep left _ _ => some left := by
  cases hcadence : d.cadence with
  | idle | stalled | asleep =>
    rw [next?_of_quiet (by rw [hcadence]; trivial), hcadence]
    rfl
  | fresh | ticking =>
    simp only [Clock.next?, Clock.resume, Clock.settled, Clock.beginFresh, hcadence,
      h.sleep_eq hc]
    rfl

theorem next?_idle (h : c.Became d) (hc : c.CanSleep) (hidle : d.state = .idle) :
    d.next? = none := by
  rw [h.next?_eq hc, state_eq_iff.mp hidle]

/-- A running clock that can sleep has a tick to come. -/
theorem next?_running (h : c.Became d) (hc : c.CanSleep) (hrun : d.state = .running) :
    ∃ due, 0 < due ∧ d.next? = some due := by
  rw [h.next?_eq hc]
  have hsuits := h.suits
  cases hcadence : d.cadence with
  | idle =>
    rw [state_running_iff, isRunning, hcadence] at hrun
    cases hrun
  | stalled =>
    rw [hcadence] at hsuits
    exact absurd hc hsuits
  | asleep left pos ticks => exact ⟨left, pos, rfl⟩
  | fresh | ticking => exact ⟨d.interval, d.interval_pos, rfl⟩

/-- **A change of speed** replaces the tick to come of a running clock, unless the speed is what it
was. -/
theorem retimed (h : c.Became d) (hc : c.CanSleep) {v : Value} {new : Int}
    (hv : clampSpeed v = .ok new) : Retimed d (d.after (.setSpeed v)) new := by
  have hspeed := d.after_setSpeed_speed hv
  have hstate : (d.after (.setSpeed v)).state = d.state := by
    simp only [state, d.after_setSpeed_isRunning v]
  have hinterval : ((d.after (.setSpeed v)).interval : Int) =
      max (d.minInterval : Int) (100 - new) := by
    have hrange := clampSpeed_range hv
    rw [interval, hspeed, d.after_setSpeed_minInterval]
    omega
  have hlater := h.after (.setSpeed v)
  refine ⟨hspeed, hinterval, d.after_frame rfl, hstate,
    fun hidle => hlater.next?_idle hc (hstate.trans hidle), fun hrun => ?_⟩
  obtain ⟨due, hpos, hdue⟩ := h.next?_running hc hrun
  refine ⟨due, hpos, hdue, ?_⟩
  split
  · -- The clock is not touched at all.
    rename_i hsame
    rw [← hdue]
    simp only [Clock.after, hv, if_pos hsame]
  · rename_i hchanged
    rw [hlater.next?_eq hc]
    simp only [Clock.after, hv, if_neg hchanged, state_running_iff.mp hrun, if_true]

end Became
end Clock

namespace Timed

variable {α : Type}

theorem setSpeed_refused {v : Value} {f : Fault} (h : clampSpeed v = .error f) (s : Timed α) :
    setSpeed v s = (.error f, s) := by
  simp only [setSpeed, bind, Action.andThen, Action.lift, h]

theorem setSpeed_clock (v : Value) (s : Timed α) :
    (setSpeed v s).2.clock = s.clock.after (.setSpeed v) := by
  obtain ⟨log, h⟩ := setSpeed_state v s
  rw [h]

theorem setSpeed_body (v : Value) (s : Timed α) : (setSpeed v s).2.body = s.body := by
  obtain ⟨log, h⟩ := setSpeed_state v s
  rw [h]

/-- Changes of speed, one right after the other. -/
def burst (s : Timed α) (speeds : List Value) : Timed α :=
  speeds.foldl (fun s v => (setSpeed v s).2) s

/-- Changes of speed at one time; the event loop runs after each burst of them. -/
def bursts (s : Timed α) (changes : List (List Value)) : Timed α :=
  changes.foldl (fun s speeds => (s.burst speeds).settle) s

/-- Between two changes of speed: what the clock drives has not been touched, the clock is still the
one that it was, and no tick is being made. -/
structure Sedate (c : Clock) (s t : Timed α) : Prop where
  body : t.body = s.body
  state : t.clock.state = s.clock.state
  became : c.Became t.clock
  rested : t.clock.Rested
  still : ∀ k, t.clock.cadence ≠ .ticking k

namespace Sedate

variable {c : Clock} {s t : Timed α}

theorem setSpeed (h : Sedate c s t) (v : Value) : Sedate c s (Timed.setSpeed v t).2 := by
  have hclock := setSpeed_clock v t
  refine ⟨(setSpeed_body v t).trans h.body, ?_, ?_, ?_, fun k hk => ?_⟩
  · rw [hclock, ← h.state]
    simp only [Clock.state, t.clock.after_setSpeed_isRunning v]
  · exact hclock ▸ h.became.after (.setSpeed v)
  · exact hclock ▸ h.rested.after (.setSpeed v)
  · rw [hclock] at hk
    exact h.still k (Clock.ticking_of_after hk)

theorem settle (h : Sedate c s t) : Sedate c s t.settle := by
  refine ⟨h.body, ?_, h.became.settled, h.rested.settled, fun k hk => ?_⟩
  · rw [← h.state]
    simp only [Clock.state, ← t.clock.isRunning_settled]
    rfl
  · have hquiet := Clock.settled_isQuiet h.still
    rw [show t.clock.settled.cadence = .ticking k from hk] at hquiet
    exact hquiet

theorem burst (h : Sedate c s t) (speeds : List Value) : Sedate c s (t.burst speeds) := by
  induction speeds generalizing t with
  | nil => exact h
  | cons v rest ih => exact ih (h.setSpeed v)

end Sedate

/-- Changes of speed in a row leave the clock at rest. -/
theorem bursts_sedate {c : Clock} {s t : Timed α} (h : Sedate c s t)
    (hquiet : t.clock.cadence.IsQuiet) (changes : List (List Value)) :
    Sedate c s (t.bursts changes) ∧ (t.bursts changes).clock.cadence.IsQuiet := by
  induction changes generalizing t with
  | nil => exact ⟨h, hquiet⟩
  | cons speeds rest ih =>
    have hburst := h.burst speeds
    exact ih hburst.settle (Clock.settled_isQuiet hburst.still)

end Timed

namespace Diary

open Instant (Calls)

variable {α : Type}

/-- The clocks that come up at `s` and in the course of the tick that pends there: as `s` has it, or
as the calls of operations up to then have left it. -/
def ComesUp (s : Timed (Diary α)) (c : Clock) : Prop :=
  ∃ n : Instant, n.clock = c ∧ (Calls (instant s) n ∨
    ∃ left pos ticks, s.clock.cadence = .asleep left pos ticks ∧
      Calls ((instant s).struck left ticks) n)

theorem ComesUp.became {c d : Clock} {s : Timed (Diary α)} (h : ComesUp s d)
    (hs : c.Became s.clock) : c.Became d := by
  obtain ⟨n, rfl, hcalls | ⟨left, pos, ticks, hdue, hcalls⟩⟩ := h
  · exact Instant.became_calls hs hcalls
  · exact Instant.became_calls (Instant.became_struck (m := instant s) hs hdue) hcalls

theorem step_setSpeed (r : Reaction α) (s : Timed (Diary α)) (v : Value) :
    (step r s (.op (.setSpeed v))).clock = (s.clock.after (.setSpeed v)).settled ∧
    (step r s (.op (.setSpeed v))).body = (enter (.called (.setSpeed v)) s).body := by
  obtain ⟨answer, said, h⟩ := Timed.setSpeed_quiet v
  simp only [step, h]
  exact ⟨rfl, rfl⟩

/-- A running clock that rests and can sleep ticks on, as one cadence does, for as long as nobody
operates it. -/
theorem ticks_of_running {c : Clock} (hsleep : c.CanSleep) {s : Timed (Diary α)}
    (hbecame : c.Became s.clock) (hrested : s.clock.Rested) (hquiet : s.clock.cadence.IsQuiet)
    (hrun : s.clock.state = .running) :
    ∃ due, 0 < due ∧ due ≤ s.clock.interval ∧ s.clock.cadence.due? = some due ∧
      ∀ {q : Reaction α}, q.IsBystander → ∀ ms,
        Ticks s (elapse q ms s) (ticksWithin s.clock.interval due ms)
          (dueAfter s.clock.interval due ms) := by
  obtain ⟨due, hpos, hnext⟩ := hbecame.next?_running hsleep hrun
  rw [Clock.next?_of_quiet hquiet] at hnext
  obtain ⟨hle, hseconds⟩ := hrested due hnext
  exact ⟨due, hpos, hle, hnext, fun hq ms => elapse_steady hq ms ⟨hnext, hseconds⟩⟩

/-- **A change of speed.** Take a clock of any speed and least interval that can be slept for, any
callback and any steps. A value that is no speed is refused and changes nothing; any other is cut to
its integer part and clamped. The clock then has this speed and the interval that goes with it, it
stands at the frame where it stood, in the state in which it was, and the callback is not called. An
idle clock is left without a tick; a running one has the tick that it had, if the speed is the same,
and else one that is due an interval from now. This holds between two steps, and wherever the speed
is changed in the course of a call or a tick, of the tick that then comes. And any changes of speed
at one time leave a running clock with one pending tick, from which it ticks on as a single cadence
does. -/
theorem speed_changes (r : Reaction α) (body : α) {hasLoop : Bool} {speed least : Value}
    {c : Clock} (hc : Clock.create hasLoop speed least = .ok c) (hsleep : c.CanSleep)
    (todo : List Scripted.Step) (v : Value) :
    let s := steps r (start c body) todo
    let u := step r s (.op (.setSpeed v))
    forget s = Timed.steps r.run ⟨c, [], body⟩ todo ∧
    forget u = Timed.step r.run (forget s) (.op (.setSpeed v)) ∧
    (∀ new, clampSpeed v = .ok new ↔ ∃ k, v.HasIntegerPart k ∧ new = min 100 (max 0 k)) ∧
    (s.clock.next? = s.clock.cadence.due? ∧ u.clock.next? = u.clock.cadence.due?) ∧
    (∀ f, clampSpeed v = .error f → u.clock = s.clock) ∧
    (∀ new, clampSpeed v = .ok new → s.clock.Retimed u.clock new) ∧
    (u.body.now = s.body.now ∧ Chronicle.frames u.body.past = Chronicle.frames s.body.past) ∧
    (∀ t : Timed (Diary α), ComesUp s t.clock →
      (∀ f, clampSpeed v = .error f → Timed.setSpeed v t = (.error f, t)) ∧
      ∀ new, clampSpeed v = .ok new → (Timed.setSpeed v t).1 = .ok () ∧
        (Timed.setSpeed v t).2.body = t.body ∧
        t.clock.Retimed (Timed.setSpeed v t).2.clock new) ∧
    ∀ changes, let w := s.bursts changes
      w.body = s.body ∧ w.clock.state = s.clock.state ∧
      (w.clock.state = .idle → w.clock.cadence.due? = none) ∧
      (w.clock.state = .running → ∃ due, 0 < due ∧ due ≤ w.clock.interval ∧
        w.clock.cadence.due? = some due ∧ ∀ {q : Reaction α}, q.IsBystander → ∀ ms,
          Ticks w (elapse q ms w) (ticksWithin w.clock.interval due ms)
            (dueAfter w.clock.interval due ms)) := by
  intro s u
  have hsteps := steps_instant r todo (start c body)
  have hrest : Instant.Resting c (instant s) :=
    Instant.resting_steps (Instant.resting_create hc 0 []) hsteps
  have hrested : s.clock.Rested := by
    obtain ⟨-, -, -, -, -, -, hidle⟩ := Clock.create_spec hc
    exact Instant.rested_steps (Clock.rested_of_none (congrArg Cadence.due? hidle)) hsteps
  have hstill : ∀ k, s.clock.cadence ≠ .ticking k := by
    intro k hk
    have hquiet : s.clock.cadence.IsQuiet := hrest.quiet
    rw [hk] at hquiet
    exact hquiet
  have hlater : ∀ k, (s.clock.after (.setSpeed v)).cadence ≠ .ticking k :=
    fun k hk => hstill k (Clock.ticking_of_after hk)
  obtain ⟨huclock, hubody⟩ := step_setSpeed r s v
  have huquiet : u.clock.cadence.IsQuiet := huclock ▸ Clock.settled_isQuiet hlater
  refine ⟨(forget_steps r todo _).symm, (step_forget r s _).symm, fun new => clampSpeed_eq_ok,
    ⟨Clock.next?_of_quiet hrest.quiet, Clock.next?_of_quiet huquiet⟩, fun f hf => ?_,
    fun new hnew => ?_, ?_, fun t ht => ⟨fun f hf => Timed.setSpeed_refused hf t,
      fun new hnew => ⟨Timed.setSpeed_ok hnew t, Timed.setSpeed_body v t, ?_⟩⟩, fun changes => ?_⟩
  · have hsame : s.clock.after (.setSpeed v) = s.clock := by simp only [Clock.after, hf]
    rw [huclock, hsame]
    exact Clock.settled_of_quiet hrest.quiet hrest.reported
  · rw [huclock]
    exact (hrest.became.retimed hsleep hnew).settled hlater
  · rw [hubody]
    exact ⟨rfl, rfl⟩
  · rw [Timed.setSpeed_clock]
    exact (ht.became hrest.became).retimed hsleep hnew
  · obtain ⟨hw, hquiet⟩ := Timed.bursts_sedate (s := s) (t := s)
      ⟨rfl, rfl, hrest.became, hrested, hstill⟩ hrest.quiet changes
    refine ⟨hw.body, hw.state, fun hidle => ?_,
      ticks_of_running hsleep hw.became hw.rested hquiet⟩
    rw [Clock.state_eq_iff.mp hidle]
    rfl

/-- A clock that ticks every five milliseconds is next due in three. At the speed of 92.5 it is due
in eight, and its tick, if the speed is changed in the course of it, is followed by one in eight. Two
changes there and back, and then a value that is no speed, make it due in five; ten milliseconds
are then two ticks. -/
theorem speed_changes_braking :
    let v : Value := .float (.finite (mkRat 185 2))
    let s := steps (.done : Reaction Unit) (start brisk ()) [.op .start, .advance 2]
    let u := step .done s (.op (.setSpeed v))
    let t := { s with clock := ((instant s).struck 3 0).clock }
    let w := s.bursts [[.int 80, .int 95], [.null]]
    Clock.create true (.int 95) (.int 1) = .ok brisk ∧ brisk.CanSleep ∧
    v.HasIntegerPart 92 ∧ s.clock.cadence.due? = some 3 ∧
    s.clock.Retimed u.clock 92 ∧ u.clock.cadence.due? = some 8 ∧
    ComesUp s t.clock ∧ t.clock.Retimed (Timed.setSpeed v t).2.clock 92 ∧
    w.clock.cadence.due? = some 5 ∧ Ticks w (elapse .done 10 w) 2 5 := by
  intro v s u t w
  have hc : Clock.create true (.int 95) (.int 1) = .ok brisk := rfl
  have hsleep : brisk.CanSleep := quotient_of_le_hundred (by decide)
  obtain ⟨-, -, hclamp, -, -, hbetween, -, hwithin, hchanges⟩ :=
    speed_changes (.done : Reaction Unit) () hc hsleep [.op .start, .advance 2] v
  have hpart : v.HasIntegerPart 92 := ⟨mkRat 185 2, rfl, by decide +kernel⟩
  have hnew : clampSpeed v = .ok 92 := (hclamp 92).mpr ⟨92, hpart, rfl⟩
  have hdue : s.clock.cadence.due? = some 3 := by decide +kernel
  have hcomes : ComesUp s t.clock := by
    refine ⟨(instant s).struck 3 0, rfl, .inr ⟨3, by decide, 0, ?_, .refl⟩⟩
    decide +kernel
  obtain ⟨-, -, -, hticks⟩ := hchanges [[.int 80, .int 95], [.null]]
  obtain ⟨due, -, -, hw, hmade⟩ := hticks (by decide +kernel)
  have hfive : w.clock.cadence.due? = some 5 := by decide +kernel
  cases hw.symm.trans hfive
  refine ⟨hc, hsleep, hpart, hdue, hbetween 92 hnew, by decide +kernel, hcomes,
    ((hwithin t hcomes).2 92 hnew).2.2, hfive, ?_⟩
  have hten := hmade (q := .done) trivial 10
  have hinterval : w.clock.interval = 5 := by decide +kernel
  rw [hinterval] at hten
  exact hten

end Diary
end LedStudio
