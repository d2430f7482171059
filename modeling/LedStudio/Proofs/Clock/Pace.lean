import LedStudio.Proofs.Clock.Cadence
import LedStudio.Proofs.Clock.Cut
import LedStudio.Proofs.Clock.Failing
import LedStudio.Proofs.Clock.Frames
import Mathlib.Data.List.Range

/-!
# The pace of a clock

A clock that its callback leaves alone keeps its pace. The pending tick falls due first, and the
others follow at the interval, each armed by the one before; so the number of ticks within some time
and the rest until the next one have a closed form, and neither hangs on how the time is cut.

* `Clock.rested_steps` — a clock sleeps for its interval at most, and for one that is a number of
  seconds.
* `elapse_add` — two pieces of time are one, for the past as well.
* `elapse_steady` — what some time comes to.
* `ticks_without_drift` — the same for any pieces of time and any clock that a run led to.
-/

namespace LedStudio

/-! ## The closed form -/

/-- The ticks that fall due within `ms` milliseconds, the first one in `due`. -/
def ticksWithin (interval due ms : Nat) : Nat := if ms < due then 0 else 1 + (ms - due) / interval

/-- The milliseconds that it then is to the next tick. -/
def dueAfter (interval due ms : Nat) : Nat :=
  if ms < due then due - ms else interval - (ms - due) % interval

section

variable {interval due ms : Nat}

theorem ticksWithin_early (h : ms < due) : ticksWithin interval due ms = 0 := if_pos h

theorem dueAfter_early (h : ms < due) : dueAfter interval due ms = due - ms := if_pos h

/-- Behind the first tick, the next one is an interval away. -/
theorem ticksWithin_due (hpos : 0 < interval) (h : due ≤ ms) :
    ticksWithin interval due ms = ticksWithin interval interval (ms - due) + 1 := by
  have hdue : ¬ms < due := by omega
  unfold ticksWithin
  rw [if_neg hdue]
  split
  · rw [Nat.div_eq_of_lt ‹_›]
  · rw [Nat.div_eq_sub_div hpos (by omega)]
    omega

theorem dueAfter_due (h : due ≤ ms) :
    dueAfter interval due ms = dueAfter interval interval (ms - due) := by
  have hdue : ¬ms < due := by omega
  unfold dueAfter
  rw [if_neg hdue]
  split
  · rw [Nat.mod_eq_of_lt ‹_›]
  · rw [Nat.mod_eq_sub_mod (by omega)]

end

/-! ## What a clock sleeps for -/

theorem Cadence.due?_pos {cadence : Cadence} {due : Nat} (h : cadence.due? = some due) :
    0 < due := by
  cases cadence with
  | asleep left pos ticks =>
    cases h
    exact pos
  | _ => cases h

namespace Clock

theorem state_of_due {c : Clock} {due : Nat} (h : c.cadence.due? = some due) :
    c.state = .running := by
  unfold state isRunning
  cases hc : c.cadence with
  | asleep left pos ticks => rfl
  | _ =>
    rw [hc] at h
    cases h

/-- If the clock sleeps, it does for its interval at most, and that is a number of seconds. -/
def Rested (c : Clock) : Prop :=
  ∀ due, c.cadence.due? = some due → due ≤ c.interval ∧ ∃ x, c.seconds = .ok x

variable {c : Clock}

theorem rested_of_none (h : c.cadence.due? = none) : c.Rested := by
  intro due hdue
  rw [h] at hdue
  cases hdue

theorem rested_sleep (c : Clock) (ticks : Nat) : (c.sleep ticks).Rested := by
  intro due hdue
  unfold sleep at hdue
  cases hx : c.seconds with
  | error f =>
    rw [hx] at hdue
    cases hdue
  | ok x =>
    rw [hx] at hdue
    cases hdue
    exact ⟨Nat.le_refl _, x, hx⟩

theorem Rested.after (h : c.Rested) (op : ClockOp) : (c.after op).Rested := by
  cases op with
  | start =>
    simp only [Clock.after]
    split
    · exact h
    · exact rested_of_none rfl
  | stop => exact rested_of_none rfl
  | reset => exact rested_of_none rfl
  | tick => exact h
  | setSpeed v =>
    simp only [Clock.after]
    split
    · exact h
    · split
      · exact h
      · split
        · exact rested_of_none rfl
        · rename_i hidle
          refine rested_of_none ?_
          rw [Clock.idle_of_not_running (Bool.eq_false_iff.mpr hidle)]
          rfl

theorem Rested.resume (h : c.Rested) (ticks : Nat) : (c.resume ticks).Rested := by
  unfold Clock.resume
  split
  · exact c.rested_sleep _
  · exact h

theorem Rested.settled (h : c.Rested) : c.settled.Rested := by
  unfold Clock.settled beginFresh
  split
  · exact c.rested_sleep 0
  · exact h

end Clock

namespace Instant

variable {m n : Instant}

theorem rested_calls (h : m.clock.Rested) (hcalls : Calls m n) : n.clock.Rested := by
  induction hcalls with
  | refl => exact h
  | tail _ hcall ih => cases hcall <;> exact ih.after _

theorem rested_step (h : m.clock.Rested) (hstep : Step m n) : n.clock.Rested := by
  cases hstep with
  | operate hcalls => exact (rested_calls h hcalls).settled
  | fire hdue hcalls =>
    exact ((rested_calls (Clock.rested_of_none rfl) hcalls).resume _).settled
  | wait hlt hdue =>
    rename_i left pos ticks ms
    intro due hleft
    cases hleft
    obtain ⟨hle, hseconds⟩ := h left (by rw [hdue]; rfl)
    refine ⟨?_, hseconds⟩
    exact Nat.le_trans (Nat.sub_le left ms) hle
  | idle ms hdue => exact h

/-- **A clock sleeps for its interval at most**, whatever was done with it. -/
theorem rested_steps (h : m.clock.Rested) (hsteps : Steps m n) : n.clock.Rested := by
  induction hsteps with
  | refl => exact h
  | tail _ hstep ih => exact rested_step ih hstep

end Instant

/-! ## One piece of time -/

namespace Diary

variable {α : Type}

/-- **Two pieces of time are one**, for the clock, the time and the past. -/
theorem elapse_add (r : Reaction α) (a b : Nat) (s : Timed (Diary α)) :
    elapse r (a + b) s = elapse r b (elapse r a s) := by
  fun_induction elapse r a s with
  | case1 a s left pos ticks hc hle ih =>
    rw [elapse_due r hc (Nat.le_add_right_of_le hle), ← ih, Nat.sub_add_comm hle]
  | case2 a s left pos ticks hc hlt =>
    -- The first piece ends before the tick that is pending, which is then nearer by that much.
    by_cases hle : left - a ≤ b
    · rw [elapse_due r hc (by omega), elapse_due r rfl hle]
      have hnow : a + b - left = b - (left - a) := by omega
      have htime : s.body.now + left = s.body.now + a + (left - a) := by omega
      simp only [later, enter, hnow, htime, Timed.fire]
    · rw [elapse_early r hc (by omega), elapse_early r rfl hle]
      simp only [later, Nat.sub_sub, Nat.add_assoc]
  | case3 a s hc =>
    have hdue := Cadence.due?_eq_none hc
    rw [elapse_idle r (a + b) hdue, elapse_idle r b (s := later a s) hdue]
    simp only [later, Nat.add_assoc]

theorem elapse_zero (r : Reaction α) (s : Timed (Diary α)) : elapse r 0 s = s := by
  rw [elapse]
  split
  · rename_i left pos ticks hc
    rw [dif_neg (by omega)]
    simp only [later, Nat.sub_zero, Nat.add_zero, ← hc]
  · rfl

/-- Any number of pieces of time are one. -/
theorem elapse_pieces (r : Reaction α) (pieces : List Nat) (s : Timed (Diary α)) :
    steps r s (pieces.map .advance) = elapse r pieces.sum s := by
  induction pieces generalizing s with
  | nil => exact (elapse_zero r s).symm
  | cons first rest ih =>
    rw [List.sum_cons, elapse_add, ← ih]
    rfl

/-! ## A clock that is left alone -/

/-- The tick of a sleeping clock whose callback leaves it alone: the next frame is shown, and the
clock sleeps for its interval. -/
theorem fire_bystander {q : Reaction α} (hq : q.IsBystander) {s : Timed (Diary α)} (left : Nat)
    (ticks : Nat) {x : Double} (hseconds : s.clock.seconds = .ok x) :
    instant (Timed.fire (callback q) ticks (enter .fired (later left s))) =
      { clock := { s.clock with
          frame := s.clock.frame + 1
          cadence := .asleep s.clock.interval s.clock.interval_pos (ticks + 1)
          cancelled := [] }
        now := s.body.now + left
        past := (s.body.now + left, .shown (s.clock.frame + 1)) ::
          (s.body.now + left, .fired) :: s.body.past } := by
  let due := Timed.struck ticks (enter .fired (later left s))
  have hshown : instant (Timed.emit (callback q) due).2 =
      instant (enter (.shown due.clock.frame) due) := by
    rw [instant_emit, callback, record_bystander hq]
  obtain ⟨hclock, hnow, hpast⟩ := Instant.mk.inj hshown
  have hresumed : (due.clock.resume ticks).settled = { s.clock with
      frame := s.clock.frame + 1
      cadence := .asleep s.clock.interval s.clock.interval_pos (ticks + 1)
      cancelled := [] } := by
    have hsame : due.clock.seconds = .ok x := hseconds
    simp only [Clock.resume, due, Timed.struck, Clock.sleep] at hsame ⊢
    simp only [hsame]
    rfl
  rw [Timed.fire_eq]
  show Instant.mk ((Timed.emit (callback q) due).2.clock.resume ticks).settled _ _ = _
  rw [hclock]
  exact Instant.mk.injEq .. ▸ ⟨hresumed, hnow, hpast⟩

/-- The clock sleeps until its next tick, and can sleep for its interval from then on. -/
structure Steady (s : Timed (Diary α)) (due : Nat) : Prop where
  due : s.clock.cadence.due? = some due
  seconds : ∃ x, s.clock.seconds = .ok x

/-- What comes of a sleeping clock in some time: it shows the `made` frames that are next, one after
the other, and sleeps. -/
structure Ticks (s t : Timed (Diary α)) (made due : Nat) : Prop where
  frames : Chronicle.frames t.body.past =
    Chronicle.frames s.body.past ++ List.range' (s.clock.frame + 1) made
  frame : t.clock.frame = s.clock.frame + made
  interval : t.clock.interval = s.clock.interval
  due : t.clock.cadence.due? = some due

/-- One tick, and then others. -/
theorem Ticks.head {s t u : Timed (Diary α)} {made pause due : Nat} (hfirst : Ticks s t 1 pause)
    (hrest : Ticks t u made due) : Ticks s u (made + 1) due where
  frames := by
    rw [hrest.frames, hfirst.frames, hfirst.frame, List.append_assoc, Nat.add_comm made 1,
      ← List.range'_append_1]
  frame := by
    rw [hrest.frame, hfirst.frame]
    omega
  interval := hrest.interval.trans hfirst.interval
  due := hrest.due

/-- **What some time comes to** when the callback leaves the clock alone. -/
theorem elapse_steady {q : Reaction α} (hq : q.IsBystander) (ms : Nat) {s : Timed (Diary α)}
    {due : Nat} (h : Steady s due) :
    Ticks s (elapse q ms s) (ticksWithin s.clock.interval due ms)
      (dueAfter s.clock.interval due ms) := by
  obtain ⟨x, hseconds⟩ := h.seconds
  fun_induction elapse q ms s generalizing due with
  | case1 ms s left pos ticks hc hle ih =>
    have hleft : left = due := Option.some.inj ((congrArg Cadence.due? hc).symm.trans h.due)
    subst hleft
    obtain ⟨hclock, -, hpast⟩ := Instant.mk.inj (fire_bystander hq left ticks hseconds)
    generalize Timed.fire (callback q) ticks (enter .fired (later left s)) = t at ih hclock hpast
    have hfirst : Ticks s t 1 s.clock.interval :=
      { frames := (congrArg Chronicle.frames hpast).trans rfl
        frame := congrArg Clock.frame hclock
        interval := (congrArg Clock.interval hclock).trans rfl
        due := congrArg (·.cadence.due?) hclock }
    have hagain : t.clock.seconds = .ok x := (congrArg Clock.seconds hclock).trans hseconds
    -- From here on the next tick is an interval away.
    have hrest := ih ⟨hfirst.due, x, hagain⟩ hagain
    rw [hfirst.interval] at hrest
    rw [ticksWithin_due s.clock.interval_pos hle, dueAfter_due hle]
    exact hfirst.head hrest
  | case2 ms s left pos ticks hc hlt =>
    have hleft : left = due := Option.some.inj ((congrArg Cadence.due? hc).symm.trans h.due)
    subst hleft
    rw [ticksWithin_early (by omega), dueAfter_early (by omega)]
    exact ⟨(List.append_nil _).symm, rfl, rfl, rfl⟩
  | case3 ms s hc =>
    have hdue := h.due
    rw [Cadence.due?_eq_none hc] at hdue
    cases hdue

/-- **A clock keeps its pace.** A clock is due within `d` milliseconds, at most its interval; the
callback fails as it likes, but does not operate the clock. However some milliseconds are then cut,
the ticks that fall due within them show the next frames, one after the other; the clock runs on at
the last of them, and how long it then is to the next tick depends on the milliseconds alone. The
clock may have got where it is with another callback, one that operates it. -/
theorem ticks_without_drift {hasLoop : Bool} {speed least : Value} {c : Clock}
    (hcreate : Clock.create hasLoop speed least = .ok c) (r : Reaction α) (body : α)
    (todo : List Scripted.Step) {q : Reaction α} (hq : q.IsBystander) {due : Nat}
    (hdue : (steps r (start c body) todo).clock.cadence.due? = some due) (pieces : List Nat) :
    let s := steps r (start c body) todo
    let t := steps q s (pieces.map .advance)
    let made := ticksWithin s.clock.interval due pieces.sum
    Timed.steps q.run (Timed.steps r.run ⟨c, [], body⟩ todo) (pieces.map .advance) = forget t ∧
    (0 < due ∧ due ≤ s.clock.interval) ∧
    t.body.now = s.body.now + pieces.sum ∧
    Chronicle.frames t.body.past =
      Chronicle.frames s.body.past ++ List.range' (s.clock.frame + 1) made ∧
    t.clock.state = .running ∧
    t.clock.frame = s.clock.frame + made ∧
    t.clock.interval = s.clock.interval ∧
    t.clock.cadence.due? = some (dueAfter s.clock.interval due pieces.sum) := by
  obtain ⟨-, -, -, -, -, -, hidle⟩ := Clock.create_spec hcreate
  intro s t made
  have hrested : s.clock.Rested := Instant.rested_steps
    (Clock.rested_of_none (congrArg Cadence.due? hidle)) (steps_instant r todo (start c body))
  obtain ⟨hle, hseconds⟩ := hrested due hdue
  have hticks := elapse_steady hq pieces.sum ⟨hdue, hseconds⟩
  have ht : t = elapse q pieces.sum s := elapse_pieces q pieces s
  refine ⟨?_, ⟨Cadence.due?_pos hdue, hle⟩, ?_, ?_, ?_, ?_, ?_, ?_⟩
  · rw [show (⟨c, [], body⟩ : Timed α) = forget (start c body) from rfl, forget_steps,
      forget_steps]
  · rw [ht, elapse_now]
  · rw [ht]
    exact hticks.frames
  · rw [ht]
    exact Clock.state_of_due hticks.due
  · rw [ht]
    exact hticks.frame
  · rw [ht]
    exact hticks.interval
  · rw [ht]
    exact hticks.due

/-- It makes the clock faster at the second frame. -/
def hastening : Reaction Unit :=
  .look fun s => if s.clock.frame = 2 then .operate (.setSpeed (.int 97)) .done fun _ => .done
    else .done

/-- It fails at every other frame. -/
def faltering : Reaction Unit :=
  .look fun s => if s.clock.frame % 2 = 0 then .fail (.raised "boom") else .done

theorem faltering_isBystander : faltering.IsBystander := by
  intro s
  show (if s.clock.frame % 2 = 0 then Reaction.fail (.raised "boom") else .done).IsBystander
  split <;> trivial

def brisk : Clock where
  speed := 95
  minInterval := 1
  minInterval_pos := Nat.one_pos

/-- A clock that ticks every three milliseconds and is next due in two: nine milliseconds are three
ticks, and two milliseconds are left of the interval. -/
theorem ticks_without_drift_hastened :
    Clock.create true (.int 95) (.int 1) = .ok brisk ∧ faltering.IsBystander ∧
    let s := steps hastening (start brisk ()) [.op .start, .advance 11]
    let t := steps faltering s ([1, 0, 7, 1].map .advance)
    s.clock.cadence.due? = some 2 ∧ s.clock.interval = 3 ∧ s.clock.frame = 2 ∧
    t.clock.frame = 5 ∧ t.clock.cadence.due? = some 2 ∧
    Chronicle.frames t.body.past = [1, 2, 3, 4, 5] ∧ t.body.now = 20 := by
  have hcreate : Clock.create true (.int 95) (.int 1) = .ok brisk := rfl
  refine ⟨hcreate, faltering_isBystander, ?_⟩
  intro s t
  have hdue : s.clock.cadence.due? = some 2 := by decide +kernel
  have hinterval : s.clock.interval = 3 := by decide +kernel
  have hframe : s.clock.frame = 2 := by decide +kernel
  obtain ⟨-, -, hnow, hframes, -, hlast, -, hnext⟩ :=
    ticks_without_drift hcreate hastening () [.op .start, .advance 11] faltering_isBystander hdue
      [1, 0, 7, 1]
  refine ⟨hdue, hinterval, hframe, ?_, ?_, ?_, ?_⟩
  · rw [hlast, hframe, hinterval]
    rfl
  · rw [hnext, hinterval]
    rfl
  · rw [hframes, hframe, hinterval]
    decide +kernel
  · rw [hnow]
    decide +kernel

end Diary
end LedStudio
