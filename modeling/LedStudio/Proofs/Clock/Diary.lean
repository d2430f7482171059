import LedStudio.Proofs.Clock.Parallel
import LedStudio.Proofs.Clock.Reaction
import Mathlib.Algebra.Ring.Nat
import Mathlib.Logic.Relation

/-!
# The history of a clock

A clock keeps neither the time nor its past. A `Diary` does both beside a run: it is part of what
the clock drives, every call of an operation and of the callback is entered as it is made, and each
pending tick when it falls due. The diary changes nothing (`forget_steps`): without it the run is
the clock's own.

What a run can do to a clock and its diary is said once, by `Instant.Call` for what happens at one
time and by `Instant.Step` for the passing of time (`record_calls`, `steps_instant`); what is to hold
of every run is shown of these alone.
-/

namespace LedStudio

inductive ClockEvent where
  /-- Somebody asks for an operation; the callback may be the one. -/
  | called (op : ClockOp)
  /-- The pending tick falls due. -/
  | fired
  /-- The callback is called with a frame. -/
  | shown (frame : Nat)

/-- Events and when they happened, the latest first. -/
abbrev Chronicle := List (Nat × ClockEvent)

/-- What a clock drives, the time in milliseconds, and what happened so far. -/
structure Diary (α : Type) where
  own : α
  now : Nat := 0
  past : Chronicle := []

namespace Diary

variable {α : Type}

/-- The state without the diary. -/
def forget (s : Timed (Diary α)) : Timed α := ⟨s.clock, s.log, s.body.own⟩

def enter (e : ClockEvent) (s : Timed (Diary α)) : Timed (Diary α) :=
  { s with body := { s.body with past := (s.body.now, e) :: s.body.past } }

def later (ms : Nat) (s : Timed (Diary α)) : Timed (Diary α) :=
  { s with body := { s.body with now := s.body.now + ms } }

/-- The course of a reaction, which knows nothing of the diary. -/
def record : Reaction α → Timed.Callback (Diary α)
  | .done => fun s => (.ok (), s)
  | .fail f => Action.fail f
  | .look next => fun s => record (next (forget s)) s
  | .work change next => fun s =>
    record next { s with
      log := (change (forget s)).1
      body := { s.body with own := (change (forget s)).2 } }
  | .operate op inner next => fun s =>
    let result := op.perform (fun t => record inner (enter (.shown t.clock.frame) t))
      (enter (.called op) s)
    record (next result.1) result.2

/-- The callback of a reaction: its call is entered first. -/
def callback (r : Reaction α) : Timed.Callback (Diary α) := fun s =>
  record r (enter (.shown s.clock.frame) s)

/-- Lets time pass as `Timed.advance` does and enters each tick at its time. -/
def elapse (r : Reaction α) (ms : Nat) (s : Timed (Diary α)) : Timed (Diary α) :=
  match s.clock.cadence with
  | .asleep left _ ticks =>
    if h : left ≤ ms then
      elapse r (ms - left) (Timed.fire (callback r) ticks (enter .fired (later left s)))
    else
      later ms { s with
        clock := { s.clock with cadence := .asleep (left - ms) (Timed.rest_pos h) ticks } }
  | _ => later ms s
termination_by ms

def step (r : Reaction α) (s : Timed (Diary α)) : Scripted.Step → Timed (Diary α)
  | .op op => (op.perform (callback r) (enter (.called op) s)).2.settle
  | .advance ms => elapse r ms s

def steps (r : Reaction α) (s : Timed (Diary α)) (todo : List Scripted.Step) : Timed (Diary α) :=
  todo.foldl (step r) s

/-- The milliseconds that a step takes. -/
def duration : Scripted.Step → Nat
  | .op _ => 0
  | .advance ms => ms

/-- A clock with an empty diary. -/
def start (c : Clock) (body : α) : Timed (Diary α) := ⟨c, [], { own := body }⟩

/-! ## The diary changes nothing -/

/-- The callback with a diary does what the other does. -/
def Faithful (recorded : Timed.Callback (Diary α)) (plain : Timed.Callback α) : Prop :=
  ∀ s, plain (forget s) = ((recorded s).1, forget (recorded s).2)

theorem parallel :
    Timed.Parallel fun (s : Timed (Diary α)) (t : Timed α) => t = forget s where
  clock := by
    rintro s _ rfl
    rfl
  turn := by
    rintro s _ rfl c log
    rfl

theorem Faithful.agree {recorded : Timed.Callback (Diary α)} {plain : Timed.Callback α}
    (h : Faithful recorded plain) :
    Action.Agree (fun (s : Timed (Diary α)) (t : Timed α) => t = forget s) recorded plain := by
  rintro s _ rfl
  rw [h s]
  exact ⟨rfl, rfl⟩

theorem perform_forget {recorded : Timed.Callback (Diary α)} {plain : Timed.Callback α}
    (h : Faithful recorded plain) (op : ClockOp) (s : Timed (Diary α)) :
    op.perform plain (forget s) =
      ((op.perform recorded s).1, forget (op.perform recorded s).2) := by
  obtain ⟨hout, hstate⟩ := parallel.perform_agree h.agree op s (forget s) rfl
  exact Prod.ext hout.symm hstate

theorem record_faithful (r : Reaction α) : Faithful (record r) r.run := by
  induction r with
  | done => intro s; rfl
  | fail f => intro s; rfl
  | look next ih => intro s; exact ih (forget s) s
  | work change next ih =>
    intro s
    simp only [Reaction.run, record]
    rw [← ih]
    rfl
  | operate op inner next ihInner ihNext =>
    intro s
    have hinner : Faithful (fun t => record inner (enter (.shown t.clock.frame) t)) inner.run :=
      fun t => ihInner (enter (.shown t.clock.frame) t)
    have hop := perform_forget hinner op (enter (.called op) s)
    simp only [Reaction.run, record]
    rw [show forget s = forget (enter (.called op) s) from rfl, hop]
    exact ihNext _ _

theorem callback_faithful (r : Reaction α) : Faithful (callback r) r.run :=
  fun s => record_faithful r (enter (.shown s.clock.frame) s)

theorem fire_forget {recorded : Timed.Callback (Diary α)} {plain : Timed.Callback α}
    (h : Faithful recorded plain) (ticks : Nat) (s : Timed (Diary α)) :
    Timed.fire plain ticks (forget s) = forget (Timed.fire recorded ticks s) :=
  parallel.fire h.agree ticks rfl

theorem elapse_idle (r : Reaction α) (ms : Nat) {s : Timed (Diary α)}
    (h : s.clock.cadence.due? = none) : elapse r ms s = later ms s := by
  rw [elapse]
  split
  · rename_i hc
    simp [hc, Cadence.due?] at h
  · rfl

theorem elapse_due (r : Reaction α) {ms : Nat} {s : Timed (Diary α)} {left : Nat} {pos : 0 < left}
    {ticks : Nat} (h : s.clock.cadence = .asleep left pos ticks) (hle : left ≤ ms) :
    elapse r ms s =
      elapse r (ms - left) (Timed.fire (callback r) ticks (enter .fired (later left s))) := by
  rw [elapse, h]
  simp [hle]

theorem elapse_early (r : Reaction α) {ms : Nat} {s : Timed (Diary α)} {left : Nat}
    {pos : 0 < left} {ticks : Nat} (h : s.clock.cadence = .asleep left pos ticks)
    (hlt : ¬left ≤ ms) :
    elapse r ms s = later ms { s with
      clock := { s.clock with cadence := .asleep (left - ms) (Timed.rest_pos hlt) ticks } } := by
  rw [elapse, h]
  simp [hlt]

theorem elapse_forget (r : Reaction α) (ms : Nat) (s : Timed (Diary α)) :
    Timed.advance r.run ms (forget s) = forget (elapse r ms s) := by
  fun_induction elapse r ms s with
  | case1 ms s left pos ticks hc hle ih =>
    rw [Timed.advance_due r.run (s := forget s) hc hle, ← ih,
      ← fire_forget (callback_faithful r)]
    rfl
  | case2 ms s left pos ticks hc hlt =>
    rw [Timed.advance_early r.run (s := forget s) hc hlt]
    rfl
  | case3 ms s hc =>
    rw [Timed.advance_idle r.run ms (s := forget s) (Cadence.due?_eq_none hc)]
    rfl

theorem step_forget (r : Reaction α) (s : Timed (Diary α)) (todo : Scripted.Step) :
    Timed.step r.run (forget s) todo = forget (step r s todo) := by
  cases todo with
  | op op =>
    have h := perform_forget (callback_faithful r) op (enter (.called op) s)
    simp only [Timed.step, step]
    rw [show forget s = forget (enter (.called op) s) from rfl, h]
    rfl
  | advance ms => exact elapse_forget r ms s

/-- **Without its diary, a run is the clock's own.** -/
theorem forget_steps (r : Reaction α) (todo : List Scripted.Step) (s : Timed (Diary α)) :
    Timed.steps r.run (forget s) todo = forget (steps r s todo) := by
  induction todo generalizing s with
  | nil => rfl
  | cons first rest ih =>
    simp only [Timed.steps, steps, List.foldl_cons] at ih ⊢
    rw [step_forget, ih]

end Diary

/-! ## What can happen -/

/-- A clock, the time and the past. -/
structure Instant where
  clock : Clock
  now : Nat
  past : Chronicle

namespace Instant

/-- The call of an operation; where the operation calls the callback, that call is the next thing
to happen. -/
inductive Call : Instant → Instant → Prop where
  | quiet (m : Instant) (op : ClockOp) : op.shows = false →
      Call m ⟨m.clock.after op, m.now, (m.now, .called op) :: m.past⟩
  | shows (m : Instant) (op : ClockOp) : op.shows = true →
      Call m ⟨m.clock.after op, m.now,
        (m.now, .shown (m.clock.after op).frame) :: (m.now, .called op) :: m.past⟩

/-- Calls one after the other, those that callbacks make included. -/
abbrev Calls : Instant → Instant → Prop := Relation.ReflTransGen Call

/-- The pending tick falls due in `left` milliseconds and calls the callback. -/
def struck (m : Instant) (left ticks : Nat) : Instant where
  clock := { m.clock with cadence := .ticking ticks, frame := m.clock.frame + 1 }
  now := m.now + left
  past := (m.now + left, .shown (m.clock.frame + 1)) :: (m.now + left, .fired) :: m.past

/-- What happens between two times at which the event loop is at rest. -/
inductive Step : Instant → Instant → Prop where
  | operate {m n : Instant} : Calls m n → Step m ⟨n.clock.settled, n.now, n.past⟩
  | fire {m n : Instant} {left : Nat} {pos : 0 < left} {ticks : Nat} :
      m.clock.cadence = .asleep left pos ticks → Calls (m.struck left ticks) n →
      Step m ⟨(n.clock.resume ticks).settled, n.now, n.past⟩
  | wait {m : Instant} {left : Nat} {pos : 0 < left} {ticks ms : Nat} (hlt : ¬left ≤ ms) :
      m.clock.cadence = .asleep left pos ticks →
      Step m ⟨{ m.clock with cadence := .asleep (left - ms) (Timed.rest_pos hlt) ticks },
        m.now + ms, m.past⟩
  | idle {m : Instant} (ms : Nat) : m.clock.cadence.due? = none →
      Step m ⟨m.clock, m.now + ms, m.past⟩

abbrev Steps : Instant → Instant → Prop := Relation.ReflTransGen Step

end Instant

namespace Diary

open Instant (Call Calls Step Steps)

variable {α : Type}

def instant (s : Timed (Diary α)) : Instant := ⟨s.clock, s.body.now, s.body.past⟩

theorem instant_emit (callback : Timed.Callback (Diary α)) (s : Timed (Diary α)) :
    instant (Timed.emit callback s).2 = instant (callback s).2 := by
  simp only [instant, Timed.emit_clock, Timed.emit_body]

/-- A callback that enters its call and then makes calls. -/
def Calling (callback : Timed.Callback (Diary α)) : Prop :=
  ∀ s, Calls (instant (enter (.shown s.clock.frame) s)) (instant (callback s).2)

theorem perform_calls {callback : Timed.Callback (Diary α)} (h : Calling callback) (op : ClockOp)
    (s : Timed (Diary α)) :
    Calls (instant s) (instant (op.perform callback (enter (.called op) s)).2) := by
  cases hs : op.shows with
  | false =>
    obtain ⟨answer, said, hop⟩ := Timed.perform_quiet hs
    rw [hop]
    exact .single (.quiet (instant s) op hs)
  | true =>
    obtain ⟨r, hop⟩ := Timed.perform_shows callback hs (enter (.called op) s)
    rw [hop, instant_emit]
    exact .head (.shows (instant s) op hs) (h (Timed.poised op (enter (.called op) s)))

theorem record_calls (r : Reaction α) (s : Timed (Diary α)) :
    Calls (instant s) (instant (record r s).2) := by
  induction r generalizing s with
  | done => exact .refl
  | fail f => exact .refl
  | look next ih => exact ih (forget s) s
  | work change next ih =>
    rw [record]
    exact ih { s with
      log := (change (forget s)).1
      body := { s.body with own := (change (forget s)).2 } }
  | operate op inner next ihInner ihNext =>
    have hinner : Calling fun t => record inner (enter (.shown t.clock.frame) t) :=
      fun t => ihInner (enter (.shown t.clock.frame) t)
    exact (perform_calls hinner op s).trans (ihNext _ _)

theorem callback_calling (r : Reaction α) : Calling (callback r) :=
  fun s => record_calls r (enter (.shown s.clock.frame) s)

theorem fire_step (r : Reaction α) {s : Timed (Diary α)} {left : Nat} {pos : 0 < left}
    {ticks : Nat} (h : s.clock.cadence = .asleep left pos ticks) :
    Step (instant s)
      (instant (Timed.fire (callback r) ticks (enter .fired (later left s)))) := by
  have hcalls := callback_calling r (Timed.struck ticks (enter .fired (later left s)))
  rw [← instant_emit] at hcalls
  rw [Timed.fire_eq]
  exact .fire (m := instant s) h hcalls

theorem elapse_steps (r : Reaction α) (ms : Nat) (s : Timed (Diary α)) :
    Steps (instant s) (instant (elapse r ms s)) := by
  fun_induction elapse r ms s with
  | case1 ms s left pos ticks hc hle ih => exact .head (fire_step r hc) ih
  | case2 ms s left pos ticks hc hlt => exact .single (.wait hlt hc)
  | case3 ms s hc => exact .single (.idle ms (Cadence.due?_eq_none hc))

theorem step_steps (r : Reaction α) (s : Timed (Diary α)) (todo : Scripted.Step) :
    Steps (instant s) (instant (step r s todo)) := by
  cases todo with
  | op op => exact .single (.operate (perform_calls (callback_calling r) op s))
  | advance ms => exact elapse_steps r ms s

/-- **A run is made of steps.** -/
theorem steps_instant (r : Reaction α) (todo : List Scripted.Step) (s : Timed (Diary α)) :
    Steps (instant s) (instant (steps r s todo)) := by
  induction todo generalizing s with
  | nil => exact .refl
  | cons first rest ih => exact (step_steps r s first).trans (ih (step r s first))

/-! ### The time -/

theorem now_of_calls {m n : Instant} (h : Calls m n) : n.now = m.now := by
  induction h with
  | refl => rfl
  | tail _ hcall ih => cases hcall <;> exact ih

theorem fire_now (r : Reaction α) (ticks : Nat) (s : Timed (Diary α)) :
    (Timed.fire (callback r) ticks s).body.now = s.body.now := by
  have hcalls := callback_calling r (Timed.struck ticks s)
  rw [← instant_emit] at hcalls
  rw [Timed.fire_eq]
  exact now_of_calls hcalls

theorem elapse_now (r : Reaction α) (ms : Nat) (s : Timed (Diary α)) :
    (elapse r ms s).body.now = s.body.now + ms := by
  fun_induction elapse r ms s with
  | case1 ms s left pos ticks hc hle ih =>
    rw [ih, fire_now]
    simp only [enter, later]
    omega
  | case2 => rfl
  | case3 => rfl

theorem step_now (r : Reaction α) (s : Timed (Diary α)) (todo : Scripted.Step) :
    (step r s todo).body.now = s.body.now + duration todo := by
  cases todo with
  | op op => exact now_of_calls (perform_calls (callback_calling r) op s)
  | advance ms => exact elapse_now r ms s

theorem steps_now (r : Reaction α) (todo : List Scripted.Step) (s : Timed (Diary α)) :
    (steps r s todo).body.now = s.body.now + (todo.map duration).sum := by
  induction todo generalizing s with
  | nil => rfl
  | cons first rest ih =>
    simp only [steps, List.foldl_cons] at ih ⊢
    rw [ih, step_now, List.map_cons, List.sum_cons, Nat.add_assoc]

end Diary
end LedStudio
