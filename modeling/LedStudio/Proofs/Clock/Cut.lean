import LedStudio.Clock.Script
import LedStudio.Proofs.Clock.Parallel

/-!
# Time can be cut anywhere

Time that passes in two pieces does what it does in one, wherever the cut is: before a tick, after
one, or just when one is due. What a callback does to the cadence while ticks fall due is no matter,
since each tick leaves as much of the time as there was left at it.

* `advance_add` — two pieces of time with any callback.
* `time_cuts_anywhere` — with a script, the frames are those of the first piece and then those of
  the second, as if the script had been given none before.
-/

namespace LedStudio

/-- The rest of the time does not hang on how long the pending tick was waited for. -/
theorem Timed.fire_cadence {α : Type} (callback : Timed.Callback α) (ticks : Nat) (s : Timed α)
    (cadence : Cadence) :
    fire callback ticks { s with clock := { s.clock with cadence := cadence } } =
      fire callback ticks s := rfl

/-- **Time in two pieces is time in one.** -/
theorem Timed.advance_add {α : Type} (callback : Timed.Callback α) (a b : Nat) (s : Timed α) :
    s.advance callback (a + b) = (s.advance callback a).advance callback b := by
  fun_induction Timed.advance callback a s with
  | case1 a s left pos ticks hc hle ih =>
    rw [advance_due callback hc (Nat.le_add_right_of_le hle), ← ih, Nat.sub_add_comm hle]
  | case2 a s left pos ticks hc hlt =>
    -- The first piece ends before the tick that is pending, which is then nearer by that much.
    by_cases hle : left - a ≤ b
    · rw [advance_due callback hc (by omega), advance_due callback rfl hle, fire_cadence]
      congr 1
      omega
    · rw [advance_early callback hc (by omega), advance_early callback rfl hle]
      simp only [Nat.sub_sub]
  | case3 a s hc =>
    have hdue := Cadence.due?_eq_none hc
    rw [advance_idle callback (a + b) hdue, advance_idle callback b hdue]

namespace Scripted

/-- The state as it would be if the script had been given some more frames before. -/
def given (frames : List Nat) (s : Timed Scripted) : Timed Scripted :=
  { s with body := { s.body with emitted := frames ++ s.body.emitted } }

/-- The state before a step whose frames are to be told apart from those before it. -/
def fresh (s : Timed Scripted) : Timed Scripted := { s with body := { s.body with emitted := [] } }

/-- The frames that the script is given while some milliseconds pass. -/
def framesIn (ms : Nat) (s : Timed Scripted) : List Nat :=
  ((fresh s).advance callback ms).body.emitted

/-- The two states differ in the frames that were given before, and in nothing else. -/
def Behind (frames : List Nat) (s t : Timed Scripted) : Prop := t = given frames s

theorem behind_parallel (frames : List Nat) : Timed.Parallel (Behind frames) where
  clock := fun h => by rw [h]; rfl
  turn := fun h c log => by rw [h]; rfl

variable {frames : List Nat}

open LedStudio.Action (Agree)

theorem heard_agree : Agree (Behind frames) heard heard := by
  rintro s _ rfl
  unfold heard given
  cases s.body.script <;> simp only [Behind, given, List.append_assoc, and_self]

theorem strike_agree (frame : Nat) : Agree (Behind frames) (strike frame) (strike frame) := by
  rintro s _ rfl
  unfold strike
  simp only [given]
  cases nextAct frame (waiting s.body.script) with
  | none => exact ⟨rfl, rfl⟩
  | some found => exact ⟨rfl, rfl⟩

theorem act_agree (fuel frame : Nat) : Agree (Behind frames) (act fuel frame) (act fuel frame) := by
  induction fuel generalizing frame with
  | zero => exact .pure ()
  | succ fuel ih =>
    refine (strike_agree frame).bind fun struck => ?_
    cases struck with
    | none => exact .pure ()
    | some op =>
      have again : Agree (Behind frames) (do heard; let s ← Action.get; act fuel s.clock.frame)
          (do heard; let s ← Action.get; act fuel s.clock.frame) :=
        heard_agree.bind fun _ => .get_bind fun s t h => by rw [h]; exact ih _
      exact ((behind_parallel frames).perform_agree again op).bind fun _ => ih frame

/-- A script goes by its acts alone, not by the frames that it was given. -/
theorem callback_agree : Agree (Behind frames) callback callback :=
  heard_agree.bind fun _ => .get_bind fun s t h => by rw [h]; exact act_agree _ _

theorem advance_given (frames : List Nat) (ms : Nat) (s : Timed Scripted) :
    (given frames s).advance callback ms = given frames (s.advance callback ms) :=
  (behind_parallel frames).advance_agree callback_agree ms rfl

/-- The frames of a piece of time come behind those of before. -/
theorem emitted_advance (ms : Nat) (s : Timed Scripted) :
    (s.advance callback ms).body.emitted = s.body.emitted ++ framesIn ms s := by
  have hs : given s.body.emitted (fresh s) = s := by
    simp only [given, fresh, List.append_nil]
  calc (s.advance callback ms).body.emitted
    _ = ((given s.body.emitted (fresh s)).advance callback ms).body.emitted := by rw [hs]
    _ = s.body.emitted ++ framesIn ms s := by rw [advance_given]; rfl

/-- **Time can be cut anywhere.** Take any state of a clock with any script: none, one that fails, or
one that starts, stops, rewinds, re-times and ticks the clock from inside. After two pieces of time
everything is as after one piece as long as both: the frame, whether the clock runs, its speed, the
time to the pending tick, and the acts that are still to be carried out. The script is given the
frames of the first piece and then those of the second. -/
theorem time_cuts_anywhere (a b : Nat) (s : Timed Scripted) :
    s.advance callback (a + b) = (s.advance callback a).advance callback b ∧
    framesIn (a + b) s = framesIn a s ++ framesIn b (s.advance callback a) := by
  have hcut := Timed.advance_add callback a b s
  refine ⟨hcut, ?_⟩
  have hwhole := emitted_advance (a + b) s
  rw [hcut, emitted_advance b, emitted_advance a, List.append_assoc] at hwhole
  exact (List.append_cancel_left hwhole).symm

/-- A clock that ticks every three milliseconds, slowed down to five from inside its second tick. -/
def slowed : Timed Scripted where
  clock := ⟨97, 1, Nat.one_pos, 0, .asleep 3 (Nat.succ_pos 2) 0, [], true⟩
  log := []
  body := ⟨.acts [⟨2, .setSpeed (.int 95)⟩], []⟩

/-- A cut where the second tick is due: the tick belongs to the first piece. -/
example : framesIn 6 slowed = [1, 2] ∧ framesIn 5 (slowed.advance callback 6) = [3] := by
  decide +kernel

end Scripted
end LedStudio
