import LedStudio.Proofs.Clock.Resting
import LedStudio.Proofs.Clock.Round

/-!
# Advancing ends

Each tick that falls due takes at least a millisecond of the time that is to pass, since the clock
never sleeps for less, and each call of a scripted callback beyond the first one of a tick uses up an
act. So some time that passes makes no more ticks than it has milliseconds, and a tick no more calls
than there are acts left, and one.

* `firesIn_spaced` — the times of the ticks, with any callback.
* `callbackWith_eq` — the fuel of a scripted callback never runs out.
* `ticked_calls` — the calls that a tick makes.
* `advance_ends` — all of it, for any state of a clock with a script.
-/

namespace LedStudio

/-! ## The times of the ticks -/

namespace Clock

variable {c : Clock}

theorem after_minInterval (c : Clock) (op : ClockOp) : (c.after op).minInterval = c.minInterval := by
  cases op with
  | start => exact c.alike_start.minInterval
  | setSpeed v => exact c.after_setSpeed_minInterval v
  | _ => rfl

theorem due?_after (h : c.cadence.due? = none) (op : ClockOp) :
    (c.after op).cadence.due? = none := by
  cases op with
  | start =>
    simp only [after]
    split
    · exact h
    · rfl
  | stop => rfl
  | reset => rfl
  | tick => exact h
  | setSpeed v =>
    simp only [after]
    split
    · exact h
    · split
      · exact h
      · split
        · rfl
        · exact h

theorem due?_sleep {ticks due : Nat} (h : (c.sleep ticks).cadence.due? = some due) :
    due = c.interval := by
  unfold sleep at h
  cases hx : c.seconds <;> rw [hx] at h <;> cases h
  rfl

/-- Where no tick is pending, the next one is an interval away. -/
theorem due?_again (h : c.cadence.due? = none) {ticks due : Nat}
    (hdue : (c.resume ticks).settled.cadence.due? = some due) : due = c.interval := by
  unfold resume at hdue
  cases hc : c.cadence with
  | idle | stalled => simp [hc, settled, beginFresh, Cadence.due?] at hdue
  | asleep => simp [hc, Cadence.due?] at h
  | fresh =>
    simp only [hc, settled, beginFresh] at hdue
    exact due?_sleep hdue
  | ticking ticks =>
    simp only [hc] at hdue
    rw [settled_cadence (c.sleep_isQuiet _)] at hdue
    exact due?_sleep hdue

end Clock

namespace Instant

variable {m n : Instant}

theorem minInterval_calls (hcalls : Calls m n) : n.clock.minInterval = m.clock.minInterval := by
  induction hcalls with
  | refl => rfl
  | tail _ hcall ih => cases hcall <;> exact (Clock.after_minInterval _ _).trans ih

theorem due?_calls (h : m.clock.cadence.due? = none) (hcalls : Calls m n) :
    n.clock.cadence.due? = none := by
  induction hcalls with
  | refl => exact h
  | tail _ hcall ih => cases hcall <;> exact Clock.due?_after ih _

end Instant

namespace Diary

variable {α : Type}

/-- The clock after a tick: the calls that were made in the course of it have led to a clock that
goes back to sleep, or to one that has begun anew. -/
theorem ticked_clock (r : Reaction α) (left ticks : Nat) (s : Timed (Diary α)) : ∃ n,
    Instant.Calls ((instant s).struck left ticks) n ∧
      (ticked r left ticks s).clock = (n.clock.resume ticks).settled := by
  exact ⟨_, returned_calls r left ticks s, by rw [ticked_eq]; rfl⟩

theorem ticked_minInterval (r : Reaction α) (left ticks : Nat) (s : Timed (Diary α)) :
    (ticked r left ticks s).clock.minInterval = s.clock.minInterval := by
  obtain ⟨n, hcalls, hclock⟩ := ticked_clock r left ticks s
  rw [hclock, (Clock.alike_settled _).minInterval, (Clock.alike_resume _ _).minInterval,
    Instant.minInterval_calls hcalls]
  rfl

/-- After a tick, the next one is not due before the least interval has passed. -/
theorem ticked_due (r : Reaction α) {left ticks due : Nat} {s : Timed (Diary α)}
    (h : (ticked r left ticks s).clock.cadence.due? = some due) : s.clock.minInterval ≤ due := by
  obtain ⟨n, hcalls, hclock⟩ := ticked_clock r left ticks s
  rw [hclock] at h
  rw [Clock.due?_again (Instant.due?_calls rfl hcalls) h]
  have hleast : n.clock.minInterval = s.clock.minInterval := Instant.minInterval_calls hcalls
  rw [← hleast]
  exact Nat.le_max_left _ _

/-- Each round while time passes is that of one tick. -/
theorem roundsIn_fires (r : Reaction α) (ms : Nat) (s : Timed (Diary α)) :
    ∀ round ∈ roundsIn r ms s, ∃ time, Chronicle.fires round.entries = [time] := by
  fun_induction roundsIn r ms s with
  | case1 ms s left pos ticks hc hle ih =>
    obtain ⟨new, hpast, hfires, -⟩ := ticked_added r left ticks s
    rw [List.forall_mem_cons]
    exact ⟨⟨_, by rw [since_entries hpast, hfires]⟩, ih⟩
  | case2 => exact List.forall_mem_nil _
  | case3 => exact List.forall_mem_nil _

/-- The times at which ticks fall due while some time passes. -/
def firesIn (r : Reaction α) (ms : Nat) (s : Timed (Diary α)) : List Nat :=
  (roundsIn r ms s).flatMap (Chronicle.fires ·.entries)

theorem firesIn_due (r : Reaction α) {ms : Nat} {s : Timed (Diary α)} {left : Nat} {pos : 0 < left}
    {ticks : Nat} (h : s.clock.cadence = .asleep left pos ticks) (hle : left ≤ ms) :
    firesIn r ms s = (s.body.now + left) :: firesIn r (ms - left) (ticked r left ticks s) := by
  obtain ⟨new, hpast, hfires, -⟩ := ticked_added r left ticks s
  rw [firesIn, roundsIn_due r h hle, List.flatMap_cons, since_entries hpast, hfires]
  rfl

/-- What holds of the times at which ticks fall due while some time passes. -/
structure Spaced (s : Timed (Diary α)) (ms : Nat) (times : List Nat) : Prop where
  first : ∀ time ∈ times.head?, ∃ due, s.clock.cadence.due? = some due ∧ time = s.body.now + due
  apart : times.IsChain (fun before after => before + s.clock.minInterval ≤ after)
  within : ∀ time ∈ times, s.body.now < time ∧ time ≤ s.body.now + ms
  few : times.length ≤ ms

/-- **The ticks that fall due while some time passes** are the least interval apart, and no more than
there are milliseconds. -/
theorem firesIn_spaced (r : Reaction α) (ms : Nat) (s : Timed (Diary α)) :
    Spaced s ms (firesIn r ms s) := by
  fun_induction roundsIn r ms s with
  | case1 ms s left pos ticks hc hle ih =>
    rw [firesIn_due r hc hle]
    have hnow := ticked_now r left ticks s
    refine ⟨?_, ?_, ?_, ?_⟩
    · rintro time ⟨⟩
      exact ⟨left, by rw [hc]; rfl, rfl⟩
    · rw [List.isChain_cons]
      have hapart := ih.apart
      rw [ticked_minInterval] at hapart
      refine ⟨fun time htime => ?_, hapart⟩
      obtain ⟨due, hdue, rfl⟩ := ih.first time htime
      have hleast := ticked_due r hdue
      omega
    · rw [List.forall_mem_cons]
      refine ⟨by omega, fun time htime => ?_⟩
      have hwithin := ih.within time htime
      omega
    · have hfew := ih.few
      rw [List.length_cons]
      omega
  | case2 ms s left pos ticks hc hlt =>
    rw [firesIn, roundsIn_early r hc hlt]
    exact ⟨nofun, List.isChain_nil, nofun, Nat.zero_le ms⟩
  | case3 ms s hc =>
    rw [firesIn, roundsIn_idle r (Cadence.due?_eq_none hc)]
    exact ⟨nofun, List.isChain_nil, nofun, Nat.zero_le ms⟩

end Diary

/-! ## The fuel of a script -/

namespace Timed

variable {α : Type}

/-- An operation does to what the clock drives what its call of the callback does. -/
theorem perform_body (callback : Callback α) (op : ClockOp) (s : Timed α) :
    (op.perform callback s).2.body =
      if op.shows then (callback (poised op s)).2.body else s.body := by
  cases hshows : op.shows with
  | false =>
    obtain ⟨answer, said, hop⟩ := perform_quiet hshows
    rw [hop]
    rfl
  | true =>
    obtain ⟨result, hop⟩ := perform_shows callback hshows s
    rw [hop, emit_body]
    rfl

/-- What the callback keeps of what the clock drives, an operation keeps of it. -/
theorem perform_keeps {I : α → Prop} {callback : Callback α}
    (h : Action.Keeps (fun s : Timed α => I s.body) callback) (op : ClockOp) :
    Action.Keeps (fun s : Timed α => I s.body) (op.perform callback) := by
  intro s hs
  simp only [perform_body]
  split
  · exact h (poised op s) hs
  · exact hs

/-- An operation calls the callback on what the clock drives, and nowhere else. -/
theorem perform_congr {callback other : Callback α} {s : Timed α}
    (h : ∀ t : Timed α, t.body = s.body → callback t = other t) (op : ClockOp) :
    op.perform callback s = op.perform other s := by
  cases hshows : op.shows with
  | false =>
    obtain ⟨answer, said, hop⟩ := perform_quiet hshows
    rw [hop, hop]
  | true =>
    have hemit : emit callback (poised op s) = emit other (poised op s) := by
      unfold emit
      rw [h (poised op s) rfl]
    cases op with
    | reset => rw [perform_reset, perform_reset, hemit]
    | tick => rw [perform_tick, perform_tick, hemit]
    | _ => cases hshows

end Timed

namespace Scripted

open LedStudio.Action (Keeps)

/-- The number of acts that wait. -/
def remaining (b : Scripted) : Nat := (waiting b.script).length

theorem nextAct_length {frame : Nat} {acts rest : List ClockAct} {found : ClockAct}
    (h : nextAct frame acts = some (found, rest)) : rest.length + 1 = acts.length := by
  induction acts generalizing rest with
  | nil => cases h
  | cons act acts ih =>
    unfold nextAct at h
    split at h
    · cases h
      rfl
    · obtain ⟨⟨other, others⟩, hother, heq⟩ := Option.map_eq_some_iff.mp h
      cases heq
      rw [List.length_cons, List.length_cons, ih hother]

/-- Calls the callback again in the course of a call, with some fuel. -/
def again (fuel : Nat) : Action (Timed Scripted) Unit := do
  heard
  let s ← Action.get
  act fuel s.clock.frame

/-- The state once an act is struck off. -/
def struckOff (rest : List ClockAct) (s : Timed Scripted) : Timed Scripted :=
  { s with body := { s.body with script := .acts rest } }

theorem struckOff_remaining {frame : Nat} {s : Timed Scripted} {found : ClockAct}
    {rest : List ClockAct} (h : nextAct frame (waiting s.body.script) = some (found, rest)) :
    (struckOff rest s).body.remaining + 1 = s.body.remaining := nextAct_length h

theorem heard_remaining (s : Timed Scripted) : (heard s).2.body.remaining = s.body.remaining := by
  unfold heard
  cases hscript : s.body.script <;> simp only [remaining, hscript]

theorem act_none {fuel frame : Nat} {s : Timed Scripted}
    (h : nextAct frame (waiting s.body.script) = none) : act fuel frame s = (.ok (), s) := by
  cases fuel with
  | zero => rfl
  | succ fuel => simp only [act, bind, Action.andThen, strike, h, pure]

theorem act_some {fuel frame : Nat} {s : Timed Scripted} {found : ClockAct}
    {rest : List ClockAct} (h : nextAct frame (waiting s.body.script) = some (found, rest)) :
    act (fuel + 1) frame s =
      Action.andThen (found.op.perform (again fuel)) (fun _ => act fuel frame)
        (struckOff rest s) := by
  simp only [act, bind, Action.andThen, strike, h]
  rfl

/-- A call adds no act if what it carries out adds none. -/
theorem again_keeps {k fuel : Nat}
    (h : ∀ frame, Keeps (fun s : Timed Scripted => s.body.remaining ≤ k) (act fuel frame)) :
    Keeps (fun s : Timed Scripted => s.body.remaining ≤ k) (again fuel) := by
  have hheard : Keeps (fun s : Timed Scripted => s.body.remaining ≤ k) heard :=
    fun s hs => (heard_remaining s).trans_le hs
  exact hheard.bind fun _ => Keeps.bind (fun _ hs => hs) fun s => h s.clock.frame

/-- No act is added when acts are carried out. -/
theorem act_keeps (k fuel frame : Nat) :
    Keeps (fun s : Timed Scripted => s.body.remaining ≤ k) (act fuel frame) := by
  induction fuel generalizing frame with
  | zero => exact .pure ()
  | succ fuel ih =>
    intro s hs
    cases hnext : nextAct frame (waiting s.body.script) with
    | none => rwa [act_none hnext]
    | some next =>
      have hstruck := struckOff_remaining hnext
      have hperformed := Timed.perform_keeps (I := fun b : Scripted => b.remaining ≤ k)
        (again_keeps ih) next.1.op
      rw [act_some hnext]
      exact (hperformed.bind fun _ => ih frame) (struckOff next.2 s) (by omega)

/-- **More fuel makes no difference** where there is as much as there are acts that wait. -/
theorem act_more (extra : Nat) {fuel : Nat} (frame : Nat) {s : Timed Scripted}
    (h : s.body.remaining ≤ fuel) : act (fuel + extra) frame s = act fuel frame s := by
  induction fuel generalizing frame s with
  | zero =>
    have hnone : nextAct frame (waiting s.body.script) = none := by
      rw [List.eq_nil_of_length_eq_zero (Nat.le_zero.mp h)]
      rfl
    rw [act_none hnone, act_none hnone]
  | succ fuel ih =>
    cases hnext : nextAct frame (waiting s.body.script) with
    | none => rw [act_none hnext, act_none hnext]
    | some next =>
      have hstruck := struckOff_remaining hnext
      have hagain : ∀ t : Timed Scripted, t.body = (struckOff next.2 s).body →
          again (fuel + extra) t = again fuel t := by
        intro t ht
        have hheard := heard_remaining t
        simp only [again, bind, Action.andThen, Action.get]
        rcases hrun : heard t with ⟨_ | _, u⟩
        · rfl
        · have hle : u.body.remaining ≤ fuel := by
            rw [hrun, ht] at hheard
            simp only at hheard
            omega
          exact ih u.clock.frame hle
      have hperformed := Timed.perform_keeps (I := fun b : Scripted => b.remaining ≤ fuel)
        (again_keeps (act_keeps fuel fuel)) next.1.op (struckOff next.2 s) (by omega)
      rw [Nat.add_right_comm, act_some hnext, act_some hnext]
      simp only [Action.andThen, Timed.perform_congr hagain]
      rcases hrun : next.1.op.perform (again fuel) (struckOff next.2 s) with ⟨_ | _, t⟩
      · rfl
      · rw [hrun] at hperformed
        exact ih frame hperformed

/-- The callback that follows the script with more fuel than there are acts. -/
def callbackWith (extra : Nat) : Action (Timed Scripted) Unit := do
  heard
  let s ← Action.get
  act (s.body.remaining + extra) s.clock.frame

/-- **The fuel of a scripted callback never runs out**: any more of it makes no difference. -/
theorem callbackWith_eq (extra : Nat) : callbackWith extra = callback := by
  funext s
  simp only [callbackWith, callback, bind, Action.andThen, Action.get]
  rcases heard s with ⟨_ | _, t⟩
  · rfl
  · exact act_more extra t.clock.frame (Nat.le_refl _)

/-- The course of the callback that follows the script. -/
def course : Reaction Scripted :=
  hear (.look fun s => reaction s.body.remaining s.clock.frame)

theorem course_run : course.run = callback := callback_eq_run.symm

end Scripted

/-! ## The calls of a script -/

namespace Diary

open LedStudio.Action (Keeps)
open Scripted (hear reaction course)

/-- The calls that the diary has, and the acts that wait: a call beyond the first one uses up an
act. -/
def spent (d : Diary Scripted) : Nat := (Chronicle.frames d.past).length + d.own.remaining

theorem spent_enter_shown (frame : Nat) (s : Timed (Diary Scripted)) :
    (enter (.shown frame) s).body.spent = s.body.spent + 1 := by
  simp only [spent, enter, Chronicle.frames, List.length_append, List.length_singleton]
  omega

theorem hear_keeps {k : Nat} {next : Reaction Scripted}
    (h : Keeps (fun s => s.body.spent ≤ k) (record next)) :
    Keeps (fun s => s.body.spent ≤ k) (record (hear next)) := by
  intro s hs
  cases hscript : s.body.own.script with
  | absent =>
    simp only [hear, record, forget, hscript]
    exact h s hs
  | failing =>
    simp only [hear, record, forget, hscript, Action.fail]
    simpa only [spent, Scripted.remaining, hscript] using hs
  | acts waiting =>
    simp only [hear, record, forget, hscript]
    refine h _ ?_
    simpa only [spent, Scripted.remaining, hscript] using hs

theorem look_keeps {k : Nat} {next : Timed Scripted → Reaction Scripted}
    (h : ∀ t, Keeps (fun s => s.body.spent ≤ k) (record (next t))) :
    Keeps (fun s => s.body.spent ≤ k) (record (.look next)) := fun s hs => h (forget s) s hs

/-- An operation makes a call at most, and leaves the rest to the call and to what comes then. -/
theorem operate_keeps {k : Nat} {op : ClockOp} {inner : Reaction Scripted}
    {next : Outcome (Option Nat) → Reaction Scripted}
    (hinner : Keeps (fun s => s.body.spent ≤ k + 1) (record inner))
    (hnext : ∀ out, Keeps (fun s => s.body.spent ≤ k + 1) (record (next out)))
    {s : Timed (Diary Scripted)} (hs : s.body.spent ≤ k) :
    (record (.operate op inner next) s).2.body.spent ≤ k + 1 := by
  have hperformed : (op.perform (callback inner) (enter (.called op) s)).2.body.spent ≤ k + 1 := by
    rw [Timed.perform_body]
    split
    · exact hinner _ ((spent_enter_shown _ _).trans_le (Nat.succ_le_succ hs))
    · exact Nat.le_succ_of_le hs
  exact hnext _ _ hperformed

/-- What comes of an act that is struck off: its operation, and then the other acts. -/
def afterStriking (fuel frame : Nat) (act : ClockAct) : Reaction Scripted :=
  .operate act.op (hear (.look fun s => reaction fuel s.clock.frame)) fun
    | .error f => .fail f
    | .ok _ => reaction fuel frame

theorem record_reaction {fuel frame : Nat} {s : Timed (Diary Scripted)} {act : ClockAct}
    {rest : List ClockAct}
    (h : Scripted.nextAct frame (Scripted.waiting s.body.own.script) = some (act, rest)) :
    record (reaction (fuel + 1) frame) s = record (afterStriking fuel frame act)
      { s with body := { s.body with own := { s.body.own with script := .acts rest } } } := by
  simp only [reaction, record, forget, h]
  rfl

/-- A call that carries out acts makes no more calls than it uses up acts. -/
theorem reaction_keeps (k fuel frame : Nat) :
    Keeps (fun s => s.body.spent ≤ k) (record (reaction fuel frame)) := by
  induction fuel generalizing frame with
  | zero => exact .pure ()
  | succ fuel ih =>
    intro s hs
    cases hnext : Scripted.nextAct frame (Scripted.waiting s.body.own.script) with
    | none =>
      simp only [reaction, record, forget, hnext]
      exact hs
    | some next =>
      obtain ⟨act, rest⟩ := next
      have hlength : rest.length + 1 = s.body.own.remaining := Scripted.nextAct_length hnext
      obtain ⟨j, rfl⟩ : ∃ j, k = j + 1 := ⟨k - 1, by simp only [spent] at hs; omega⟩
      rw [record_reaction hnext]
      refine operate_keeps (hear_keeps (look_keeps fun t => ih t.clock.frame)) ?_ ?_
      · rintro (f | result)
        · exact fun t ht => ht
        · exact ih frame
      · simp only [spent] at hs
        simp only [spent, Scripted.remaining, Scripted.waiting]
        omega

/-- **A tick makes a call, and no more calls beside it than it uses up acts.** -/
theorem ticked_calls (left ticks : Nat) (s : Timed (Diary Scripted)) :
    (Chronicle.frames (since s (ticked course left ticks s)).entries).length +
      (ticked course left ticks s).body.own.remaining ≤ 1 + s.body.own.remaining := by
  let due := Timed.struck ticks (enter .fired (later left s))
  have hdue : (enter (.shown due.clock.frame) due).body.spent = s.body.spent + 1 :=
    spent_enter_shown _ _
  have hbody : (ticked course left ticks s).body = (callback course due).2.body := by
    rw [ticked_eq]
    exact Timed.emit_body _ _
  have hspent : (ticked course left ticks s).body.spent ≤ s.body.spent + 1 := by
    rw [hbody]
    exact hear_keeps (look_keeps fun t => reaction_keeps _ _ _) _ (Nat.le_of_eq hdue)
  obtain ⟨new, hpast, -, -⟩ := ticked_added course left ticks s
  rw [since_entries hpast]
  simp only [spent, hpast, Chronicle.frames_append, List.length_append] at hspent
  omega

theorem roundsIn_calls (ms : Nat) (s : Timed (Diary Scripted)) :
    ∀ round ∈ roundsIn course ms s,
      (Chronicle.frames round.entries).length ≤ 1 + round.own.remaining := by
  fun_induction roundsIn course ms s with
  | case1 ms s left pos ticks hc hle ih =>
    rw [List.forall_mem_cons]
    have hcalls := ticked_calls left ticks s
    refine ⟨?_, ih⟩
    simp only [since] at hcalls ⊢
    omega
  | case2 => exact List.forall_mem_nil _
  | case3 => exact List.forall_mem_nil _

/-- **Advancing ends.** Take any state of a clock, at any speed and with any least interval, and any
script: none, one that fails, or one that starts, stops, rewinds, re-times and ticks the clock from
inside. While `ms` milliseconds pass, ticks fall due at finitely many times, at most `ms` of them,
each later than the one before by the least interval, which is a millisecond or more. What happens
meanwhile is one round for each tick; the callback is called in it once, and beyond that no more
often than acts were left at the tick. No call is cut short: the callback has fuel enough, and with
more of it does the same. -/
theorem advance_ends (ms : Nat) (s : Timed (Diary Scripted)) :
    let t := elapse course ms s
    let rounds := roundsIn course ms s
    let times := firesIn course ms s
    (forget s).advance Scripted.callback ms = forget t ∧
    (∀ extra, Scripted.callbackWith extra = Scripted.callback) ∧
    t.body.past = Chronicle.through rounds s.body.past ∧
    Chronicle.fires t.body.past = Chronicle.fires s.body.past ++ times ∧
    times.length ≤ ms ∧
    1 ≤ s.clock.minInterval ∧
    times.IsChain (fun before after => before + s.clock.minInterval ≤ after) ∧
    (∀ time ∈ times, s.body.now < time ∧ time ≤ s.body.now + ms) ∧
    ∀ round ∈ rounds, (∃ time, Chronicle.fires round.entries = [time]) ∧
      (Chronicle.frames round.entries).length ≤ 1 + round.own.remaining := by
  intro t rounds times
  have hpast : t.body.past = Chronicle.through rounds s.body.past := elapse_rounds course ms s
  have hspaced := firesIn_spaced course ms s
  refine ⟨?_, Scripted.callbackWith_eq, hpast, ?_, hspaced.few, s.clock.minInterval_pos,
    hspaced.apart, hspaced.within, fun round hround =>
      ⟨roundsIn_fires course ms s round hround, roundsIn_calls ms s round hround⟩⟩
  · rw [← Scripted.course_run]
    exact elapse_forget course ms s
  · rw [hpast, Chronicle.fires_through]
    rfl

/-- A clock that ticks in a millisecond, and every three after that. In the course of its second tick,
the script ticks it two times, once from inside of the other, and makes it faster. -/
def nested : Timed (Diary Scripted) where
  clock := ⟨97, 1, Nat.one_pos, 0, .asleep 1 Nat.one_pos 0, [], true⟩
  log := []
  body := { own := ⟨.acts [⟨2, .tick⟩, ⟨3, .tick⟩, ⟨2, .setSpeed (.int 98)⟩], []⟩ }

example : firesIn course 7 nested = [1, 4, 6] ∧
    (roundsIn course 7 nested).map (fun round => (Chronicle.frames round.entries).length) =
      [1, 3, 1] := by decide +kernel

end Diary
end LedStudio
