import LedStudio.Proofs.Clock.Frames

/-!
# Rounds of the event loop

The event loop runs after every step of a caller and after every tick that falls due. What happens
until then is a round: one operation or one tick, and all that the callback makes of it. A run is
its rounds, one after the other.

* `calls_added` — in the course of a round no tick falls due, and no time passes.
* `Lasting.steps` — what each round keeps holds after a run.
* `steps_rounds` — the past of a run is that of its rounds.
-/

namespace LedStudio

/-- What happens from one time that the event loop runs to the next: what the clock drove before,
and what was then entered, the latest first. -/
structure Round (α : Type) where
  own : α
  entries : Chronicle

/-- The past with some rounds behind it. -/
def Chronicle.through {α : Type} (rounds : List (Round α)) (past : Chronicle) : Chronicle :=
  rounds.foldl (fun past round => round.entries ++ past) past

namespace Chronicle

/-- The times at which the pending tick fell due, in order. -/
def fires : Chronicle → List Nat
  | [] => []
  | (time, .fired) :: past => fires past ++ [time]
  | (_, .called _) :: past | (_, .shown _) :: past => fires past

theorem fires_append (new past : Chronicle) : fires (new ++ past) = fires past ++ fires new := by
  induction new with
  | nil => simp only [List.nil_append, fires, List.append_nil]
  | cons entry new ih =>
    obtain ⟨time, called | fired | shown⟩ := entry
    · exact ih
    · simp only [List.cons_append, fires, ih, List.append_assoc]
    · exact ih

theorem fires_cons_eq_nil {time : Nat} {e : ClockEvent} {past : Chronicle}
    (h : fires ((time, e) :: past) = []) : e ≠ .fired ∧ fires past = [] := by
  cases e with
  | fired => exact absurd h (List.append_ne_nil_of_right_ne_nil _ (List.cons_ne_nil _ _))
  | called op => exact ⟨by simp, h⟩
  | shown frame => exact ⟨by simp, h⟩

theorem frames_append (new past : Chronicle) :
    frames (new ++ past) = frames past ++ frames new := by
  induction new with
  | nil => simp only [List.nil_append, frames, List.append_nil]
  | cons entry new ih =>
    obtain ⟨time, called | fired | shown⟩ := entry
    · exact ih
    · exact ih
    · simp only [List.cons_append, frames, ih, List.append_assoc]

theorem fires_through {α : Type} (rounds : List (Round α)) (past : Chronicle) :
    fires (through rounds past) = fires past ++ rounds.flatMap (fires ·.entries) := by
  induction rounds generalizing past with
  | nil => exact (List.append_nil _).symm
  | cons first rest ih =>
    rw [List.flatMap_cons, ← List.append_assoc, ← fires_append]
    exact ih _

theorem through_append {α : Type} (first rest : List (Round α)) (past : Chronicle) :
    through (first ++ rest) past = through rest (through first past) := List.foldl_append

end Chronicle

namespace Instant

variable {m n : Instant}

/-- **In the course of a round** no tick falls due, and no time passes. -/
theorem calls_added (hcalls : Calls m n) : ∃ new : Chronicle, n.past = new ++ m.past ∧
    Chronicle.fires new = [] ∧ ∀ entry ∈ new, entry.1 = m.now := by
  induction hcalls with
  | refl => exact ⟨[], rfl, rfl, nofun⟩
  | tail hcalls hcall ih =>
    obtain ⟨new, hpast, hfires, htimes⟩ := ih
    have hnow := Diary.now_of_calls hcalls
    cases hcall with
    | quiet op _ =>
      refine ⟨(m.now, .called op) :: new, by rw [hpast, hnow]; rfl, hfires, ?_⟩
      simp only [List.mem_cons]
      rintro entry (rfl | hmem)
      · rfl
      · exact htimes entry hmem
    | shows op _ =>
      refine ⟨(m.now, .shown _) :: (m.now, .called op) :: new, by rw [hpast, hnow]; rfl, hfires, ?_⟩
      simp only [List.mem_cons]
      rintro entry (rfl | rfl | hmem)
      · rfl
      · rfl
      · exact htimes entry hmem

end Instant

namespace Diary

open Instant (Calls)

variable {α : Type}

/-- The round between two states. -/
def since (s t : Timed (Diary α)) : Round α where
  own := s.body.own
  entries := t.body.past.take (t.body.past.length - s.body.past.length)

/-- The state when the event loop has run after the tick that is due in `left` milliseconds. -/
def ticked (r : Reaction α) (left ticks : Nat) (s : Timed (Diary α)) : Timed (Diary α) :=
  Timed.fire (callback r) ticks (enter .fired (later left s))

/-- The state when the callback returns from the tick that is due in `left` milliseconds. -/
def returned (r : Reaction α) (left ticks : Nat) (s : Timed (Diary α)) : Timed (Diary α) :=
  (Timed.emit (callback r) (Timed.struck ticks (enter .fired (later left s)))).2

theorem ticked_eq (r : Reaction α) (left ticks : Nat) (s : Timed (Diary α)) :
    ticked r left ticks s = Timed.settle { returned r left ticks s with
      clock := (returned r left ticks s).clock.resume ticks } := Timed.fire_eq _ _ _

/-- What happens in the course of a tick begins with the tick itself. -/
theorem returned_calls (r : Reaction α) (left ticks : Nat) (s : Timed (Diary α)) :
    Calls ((instant s).struck left ticks) (instant (returned r left ticks s)) := by
  rw [returned, instant_emit]
  exact callback_calling r (Timed.struck ticks (enter .fired (later left s)))

/-- The rounds while time passes: one for each tick that falls due. -/
def roundsIn (r : Reaction α) (ms : Nat) (s : Timed (Diary α)) : List (Round α) :=
  match s.clock.cadence with
  | .asleep left _ ticks =>
    if left ≤ ms then
      since s (ticked r left ticks s) :: roundsIn r (ms - left) (ticked r left ticks s)
    else []
  | _ => []
termination_by ms

/-- The rounds of a step. -/
def roundsOf (r : Reaction α) (s : Timed (Diary α)) : Scripted.Step → List (Round α)
  | .op op => [since s (step r s (.op op))]
  | .advance ms => roundsIn r ms s

def rounds (r : Reaction α) (s : Timed (Diary α)) : List Scripted.Step → List (Round α)
  | [] => []
  | first :: rest => roundsOf r s first ++ rounds r (step r s first) rest

section

variable (r : Reaction α) {ms : Nat} {s : Timed (Diary α)} {left : Nat} {pos : 0 < left}
  {ticks : Nat}

theorem roundsIn_due (h : s.clock.cadence = .asleep left pos ticks) (hle : left ≤ ms) :
    roundsIn r ms s =
      since s (ticked r left ticks s) :: roundsIn r (ms - left) (ticked r left ticks s) := by
  rw [roundsIn, h]
  simp only [hle, if_true]

theorem roundsIn_early (h : s.clock.cadence = .asleep left pos ticks) (hlt : ¬left ≤ ms) :
    roundsIn r ms s = [] := by
  rw [roundsIn, h]
  simp only [hlt, if_false]

theorem roundsIn_idle (h : s.clock.cadence.due? = none) : roundsIn r ms s = [] := by
  rw [roundsIn]
  split
  · rename_i hc
    simp [hc, Cadence.due?] at h
  · rfl

end

/-! ## A run is its rounds -/

theorem since_entries {s t : Timed (Diary α)} {new : Chronicle}
    (h : t.body.past = new ++ s.body.past) : (since s t).entries = new := by
  rw [since, h, List.length_append, Nat.add_sub_cancel, List.take_left]

/-- What is entered in the round of an operation: the call of it, and then no tick. -/
theorem operation_added (r : Reaction α) (s : Timed (Diary α)) (op : ClockOp) :
    ∃ new : Chronicle, (step r s (.op op)).body.past = new ++ s.body.past ∧
      Chronicle.fires new = [] ∧ ∀ entry ∈ new, entry.1 = s.body.now :=
  Instant.calls_added (perform_calls (callback_calling r) op s)

/-- What is entered in the round of a tick: that it falls due, its frame, and then no tick. -/
theorem ticked_added (r : Reaction α) (left ticks : Nat) (s : Timed (Diary α)) :
    ∃ new : Chronicle, (ticked r left ticks s).body.past = new ++ s.body.past ∧
      Chronicle.fires new = [s.body.now + left] ∧ ∀ entry ∈ new, entry.1 = s.body.now + left := by
  obtain ⟨new, hpast, hfires, htimes⟩ := Instant.calls_added (returned_calls r left ticks s)
  refine ⟨new ++ [(s.body.now + left, .shown (s.clock.frame + 1)),
    (s.body.now + left, .fired)], ?_, ?_, ?_⟩
  · rw [ticked_eq, List.append_assoc]
    exact hpast
  · rw [Chronicle.fires_append, hfires]
    rfl
  · simp only [List.mem_append, List.mem_cons, List.not_mem_nil, or_false]
    rintro entry (hmem | rfl | rfl)
    · exact htimes entry hmem
    · rfl
    · rfl

theorem ticked_now (r : Reaction α) (left ticks : Nat) (s : Timed (Diary α)) :
    (ticked r left ticks s).body.now = s.body.now + left := fire_now r ticks _

/-- A property of the rounds until now and of the state after them that lasts: each round keeps it,
and so does time in which no tick falls due. -/
structure Lasting (r : Reaction α) (P : List (Round α) → Timed (Diary α) → Prop) : Prop where
  operation : ∀ {done s} (op : ClockOp), P done s →
    P (done ++ [since s (step r s (.op op))]) (step r s (.op op))
  tick : ∀ {done s left} {pos : 0 < left} {ticks}, s.clock.cadence = .asleep left pos ticks →
    P done s → P (done ++ [since s (ticked r left ticks s)]) (ticked r left ticks s)
  wait : ∀ {done s left} {pos : 0 < left} {ticks ms} (hlt : ¬left ≤ ms),
    s.clock.cadence = .asleep left pos ticks → P done s →
    P done (later ms { s with
      clock := { s.clock with cadence := .asleep (left - ms) (Timed.rest_pos hlt) ticks } })
  idle : ∀ {done s} (ms : Nat), s.clock.cadence.due? = none → P done s → P done (later ms s)

namespace Lasting

variable {r : Reaction α} {P : List (Round α) → Timed (Diary α) → Prop} {done : List (Round α)}
  {s : Timed (Diary α)}

theorem elapse (hP : Lasting r P) (ms : Nat) (h : P done s) :
    P (done ++ roundsIn r ms s) (Diary.elapse r ms s) := by
  fun_induction Diary.elapse r ms s generalizing done with
  | case1 ms s left pos ticks hc hle ih =>
    rw [roundsIn_due r hc hle, List.append_cons]
    exact ih (hP.tick hc h)
  | case2 ms s left pos ticks hc hlt =>
    rw [roundsIn_early r hc hlt, List.append_nil]
    exact hP.wait hlt hc h
  | case3 ms s hc =>
    have hdue := Cadence.due?_eq_none hc
    rw [roundsIn_idle r hdue, List.append_nil]
    exact hP.idle ms hdue h

/-- **What lasts holds after a run.** -/
theorem steps (hP : Lasting r P) (todo : List Scripted.Step) (h : P done s) :
    P (done ++ rounds r s todo) (Diary.steps r s todo) := by
  induction todo generalizing done s with
  | nil =>
    rw [rounds, List.append_nil]
    exact h
  | cons first rest ih =>
    rw [rounds, ← List.append_assoc]
    refine ih ?_
    cases first with
    | op op => exact hP.operation op h
    | advance ms => exact hP.elapse ms h

end Lasting

/-- The past is that of the rounds until now. -/
theorem through_lasting (r : Reaction α) (past : Chronicle) :
    Lasting r fun done s => s.body.past = Chronicle.through done past where
  operation {done s} op h := by
    obtain ⟨new, hpast, -, -⟩ := operation_added r s op
    rw [Chronicle.through_append, ← h, hpast, ← since_entries hpast]
    rfl
  tick {done s left _ ticks} _ h := by
    obtain ⟨new, hpast, -, -⟩ := ticked_added r left ticks s
    rw [Chronicle.through_append, ← h, hpast, ← since_entries hpast]
    rfl
  wait _ _ h := h
  idle _ _ h := h

theorem elapse_rounds (r : Reaction α) (ms : Nat) (s : Timed (Diary α)) :
    (elapse r ms s).body.past = Chronicle.through (roundsIn r ms s) s.body.past :=
  (through_lasting r s.body.past).elapse ms (show _ = Chronicle.through [] _ from rfl)

/-- **The past of a run is that of its rounds.** -/
theorem steps_rounds (r : Reaction α) (todo : List Scripted.Step) (s : Timed (Diary α)) :
    (steps r s todo).body.past = Chronicle.through (rounds r s todo) s.body.past :=
  (through_lasting r s.body.past).steps todo (show _ = Chronicle.through [] _ from rfl)

end Diary
end LedStudio
