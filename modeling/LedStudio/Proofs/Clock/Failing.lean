import LedStudio.Proofs.Clock.Diary

/-!
# Callbacks that fail

Calling the callback never fails, so a clock cannot tell a callback that fails from one that does
not. One that does not operate the clock has no part in what becomes of it at all: the clock takes
the same course with any two of them, whichever of their calls fail.

* `perform_emit` — to an operation, a callback that fails is one that logs its fault and returns.
* `perform_answer` — what an operation answers is up to the clock.
* `steps_bystander` — two such callbacks leave the same clock, at the same time, with the same past.
-/

namespace LedStudio

open LedStudio.Action (Agree)

/-- The reaction does not operate the clock. It may fail, by whatever it has seen until then. -/
def Reaction.IsBystander {α : Type} : Reaction α → Prop
  | done | fail _ => True
  | look next => ∀ s, (next s).IsBystander
  | work _ next => next.IsBystander
  | operate .. => False

namespace Timed

variable {α β : Type}

/-! ## A fault of the callback goes no further -/

theorem emit_emit (callback : Callback α) : emit (emit callback) = emit callback := by
  funext s
  have h := emit_result callback s
  rcases hemit : emit callback s with ⟨_ | _, t⟩
  · rw [hemit] at h
    cases h
  · rw [emit, hemit]

/-- To an operation, a callback that fails is one that logs its fault and returns. -/
theorem perform_emit (callback : Callback α) (op : ClockOp) :
    op.perform (emit callback) = op.perform callback := by
  funext s
  cases hshows : op.shows with
  | false =>
    obtain ⟨answer, said, hop⟩ := perform_quiet hshows
    rw [hop, hop]
  | true =>
    cases op with
    | reset => rw [perform_reset, perform_reset, emit_emit]
    | tick => rw [perform_tick, perform_tick, emit_emit]
    | _ => cases hshows

theorem fire_emit (callback : Callback α) (ticks : Nat) (s : Timed α) :
    fire (emit callback) ticks s = fire callback ticks s := by
  rw [fire_eq, fire_eq, emit_emit]

theorem advance_emit (callback : Callback α) (ms : Nat) (s : Timed α) :
    s.advance (emit callback) ms = s.advance callback ms := by
  fun_induction Timed.advance callback ms s with
  | case1 ms s left pos ticks hc hle ih => rw [advance_due _ hc hle, fire_emit, ih]
  | case2 ms s left pos ticks hc hlt => rw [advance_early _ hc hlt]
  | case3 ms s hc => rw [advance_idle _ ms (Cadence.due?_eq_none hc)]

namespace Parallel

variable {R : Timed α → Timed β → Prop} {callback : Callback α} {other : Callback β}

theorem perform_emitted (hR : Parallel R) (h : Agree R (emit callback) (emit other))
    (op : ClockOp) : Agree R (op.perform callback) (op.perform other) := by
  rw [← perform_emit callback, ← perform_emit other]
  exact hR.perform_agree h op

theorem fire_emitted (hR : Parallel R) (h : Agree R (emit callback) (emit other)) (ticks : Nat)
    {s : Timed α} {t : Timed β} (hst : R s t) :
    R (Timed.fire callback ticks s) (Timed.fire other ticks t) := by
  rw [← fire_emit callback, ← fire_emit other]
  exact hR.fire h ticks hst

theorem advance_emitted (hR : Parallel R) (h : Agree R (emit callback) (emit other)) (ms : Nat)
    {s : Timed α} {t : Timed β} (hst : R s t) :
    R (s.advance callback ms) (t.advance other ms) := by
  rw [← advance_emit callback, ← advance_emit other]
  exact hR.advance_agree h ms hst

end Parallel
end Timed

/-! ## What an operation answers -/

/-- What an operation gives: a start is refused for want of an event loop, a speed for being none,
and nothing else is. -/
def Clock.answer (c : Clock) : ClockOp → Outcome (Option Nat)
  | .start => if c.isRunning || c.hasLoop then .ok none else .error .noEventLoop
  | .stop | .reset => .ok none
  | .tick => .ok (some (c.frame + 1))
  | .setSpeed v => (clampSpeed v).map fun _ => none

namespace Timed

variable {α : Type}

/-- **What an operation answers is up to the clock**, as long as the callback leaves the clock as it
is. -/
theorem perform_answer {callback : Callback α}
    (hcallback : ∀ s, (callback s).2.clock = s.clock) (op : ClockOp) (s : Timed α) :
    (op.perform callback s).1 = s.clock.answer op := by
  cases op with
  | start =>
    simp only [ClockOp.perform, Timed.start, bind, Action.andThen, getClock, pure, Clock.answer]
    by_cases hr : s.clock.isRunning = true
    · simp [hr]
    · by_cases hl : s.clock.hasLoop = true <;>
        simp [hr, hl, Action.fail, Action.andThen, setClock, note, Action.modify]
  | stop =>
    simp only [ClockOp.perform, Timed.stop, bind, Action.andThen, getClock, setClock, pure,
      Clock.answer]
    by_cases hr : s.clock.isRunning = true <;> simp [hr, note, Action.modify]
  | setSpeed v =>
    cases hv : clampSpeed v with
    | error f =>
      simp [ClockOp.perform, Timed.setSpeed, bind, Action.andThen, Action.lift, Clock.answer, hv,
        Except.map]
    | ok new =>
      have hset : ClockOp.perform callback (.setSpeed v) s =
          Action.andThen (setSpeed v) (fun _ => pure none) s := rfl
      have hok := setSpeed_ok hv s
      rcases hrun : setSpeed v s with ⟨_ | _, t⟩
      · rw [hrun] at hok
        cases hok
      · rw [hset, Action.andThen_ok hrun]
        simp only [Clock.answer, hv]
        rfl
  | reset => rw [perform_reset, Clock.answer]
  | tick =>
    rw [perform_tick, emit_clock, hcallback]
    rfl

end Timed

/-! ## Two callbacks that do not operate the clock -/

namespace Diary

variable {α β : Type} {r : Reaction α} {q : Reaction β}

/-- What the callback does is not entered. -/
theorem record_bystander (hr : r.IsBystander) (s : Timed (Diary α)) :
    instant (record r s).2 = instant s := by
  induction r generalizing s with
  | done => rfl
  | fail f => rfl
  | look next ih => exact ih (forget s) (hr (forget s)) s
  | work change next ih => exact ih hr _
  | operate op inner next => exact hr.elim

theorem run_bystander (hr : r.IsBystander) (s : Timed α) : (r.run s).2.clock = s.clock := by
  induction r generalizing s with
  | done => rfl
  | fail f => rfl
  | look next ih => exact ih s (hr s) s
  | work change next ih => exact ih hr _
  | operate op inner next => exact hr.elim

/-- The clock, the time and the past are the same. -/
def Synchronous (s : Timed (Diary α)) (t : Timed (Diary β)) : Prop := instant s = instant t

theorem synchronous_parallel : Timed.Parallel (Synchronous (α := α) (β := β)) where
  clock h := congrArg Instant.clock h
  turn h c log := by
    obtain ⟨-, hnow, hpast⟩ := Instant.mk.inj h
    simp only [Synchronous, instant, hnow, hpast]

theorem Synchronous.enter {s : Timed (Diary α)} {t : Timed (Diary β)} (h : Synchronous s t)
    (e : ClockEvent) : Synchronous (enter e s) (enter e t) := by
  obtain ⟨hclock, hnow, hpast⟩ := Instant.mk.inj h
  simp only [Synchronous, instant, Diary.enter, hclock, hnow, hpast]

theorem Synchronous.later {s : Timed (Diary α)} {t : Timed (Diary β)} (h : Synchronous s t)
    (ms : Nat) : Synchronous (later ms s) (later ms t) := by
  obtain ⟨hclock, hnow, hpast⟩ := Instant.mk.inj h
  simp only [Synchronous, instant, Diary.later, hclock, hnow, hpast]

/-- Calling either callback enters the frame of the clock and comes to nothing else. -/
theorem emit_bystander (hr : r.IsBystander) (hq : q.IsBystander) :
    Agree Synchronous (Timed.emit (callback r)) (Timed.emit (callback q)) := by
  intro s t h
  refine ⟨(Timed.emit_result _ _).trans (Timed.emit_result _ _).symm, ?_⟩
  show instant _ = instant _
  rw [instant_emit, instant_emit, callback, callback, record_bystander hr, record_bystander hq,
    synchronous_parallel.clock h]
  exact h.enter _

theorem elapse_bystander (hr : r.IsBystander) (hq : q.IsBystander) (ms : Nat)
    {s : Timed (Diary α)} {t : Timed (Diary β)} (h : Synchronous s t) :
    Synchronous (elapse r ms s) (elapse q ms t) := by
  fun_induction elapse r ms s generalizing t with
  | case1 ms s left pos ticks hc hle ih =>
    rw [elapse_due q (synchronous_parallel.clock h ▸ hc) hle]
    exact ih (synchronous_parallel.fire_emitted (emit_bystander hr hq) ticks
      ((h.later left).enter .fired))
  | case2 ms s left pos ticks hc hlt =>
    have hslept := synchronous_parallel.abreast.setClock h
      (f := fun c => { c with cadence := .asleep (left - ms) (Timed.rest_pos hlt) ticks })
      (by rintro c _ ⟨cancelled, rfl⟩; exact ⟨cancelled, rfl⟩) fun _ => rfl
    rw [elapse_early q (synchronous_parallel.clock h ▸ hc) hlt]
    exact hslept.later ms
  | case3 ms s hc =>
    rw [elapse_idle q ms (synchronous_parallel.clock h ▸ Cadence.due?_eq_none hc)]
    exact h.later ms

theorem step_bystander (hr : r.IsBystander) (hq : q.IsBystander) {s : Timed (Diary α)}
    {t : Timed (Diary β)} (h : Synchronous s t) (todo : Scripted.Step) :
    Synchronous (step r s todo) (step q t todo) := by
  cases todo with
  | op op =>
    obtain ⟨-, hdone⟩ := synchronous_parallel.perform_emitted (emit_bystander hr hq) op _ _
      (h.enter (.called op))
    exact synchronous_parallel.abreast.settle hdone
  | advance ms => exact elapse_bystander hr hq ms h

/-- **Clocks whose callbacks do not operate them take the same course**, whichever calls of which
callback fail. -/
theorem steps_bystander (hr : r.IsBystander) (hq : q.IsBystander) {s : Timed (Diary α)}
    {t : Timed (Diary β)} (h : Synchronous s t) (todo : List Scripted.Step) :
    Synchronous (steps r s todo) (steps q t todo) := by
  induction todo generalizing s t with
  | nil => exact h
  | cons first rest ih => exact ih (step_bystander hr hq h first)

end Diary
end LedStudio
