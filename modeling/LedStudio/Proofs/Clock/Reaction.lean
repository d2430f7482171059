import LedStudio.Proofs.Clock.Basic

/-!
# What a frame callback may do

The clock is open to whatever its callback does. A `Reaction` is any course of such a call: it looks
at the state, changes what the clock drives and the log, operates the clock and sees what came of
it, and returns or fails. An operation that calls the callback again carries the reaction to that
call, so calls nest as deep as a reaction says.

* `callback_eq_run` — scripted callbacks are reactions.
-/

namespace LedStudio

/-- What a frame callback does when it is called. -/
inductive Reaction (α : Type) where
  | done
  | fail (f : Fault)
  | look (next : Timed α → Reaction α)
  /-- Puts another log and another body in place; the clock is out of reach. -/
  | work (change : Timed α → Log × α) (next : Reaction α)
  /-- Operates the clock; a call of the callback by this very operation goes by `inner`. -/
  | operate (op : ClockOp) (inner : Reaction α) (next : Outcome (Option Nat) → Reaction α)

/-- The callback that reacts so. -/
def Reaction.run {α : Type} : Reaction α → Timed.Callback α
  | done => fun s => (.ok (), s)
  | fail f => Action.fail f
  | look next => fun s => (next s).run s
  | work change next => fun s => next.run { s with log := (change s).1, body := (change s).2 }
  | operate op inner next => fun s =>
    (next (op.perform inner.run s).1).run (op.perform inner.run s).2

/-! ## Scripts are reactions -/

namespace Scripted

/-- Keeps the frame as a script does, and goes on unless the script fails. -/
def hear (next : Reaction Scripted) : Reaction Scripted :=
  .look fun s =>
    let kept (s : Timed Scripted) : Log × Scripted :=
      (s.log, { s.body with emitted := s.body.emitted ++ [s.clock.frame] })
    match s.body.script with
    | .absent => next
    | .failing => .work kept (.fail (.raised "boom"))
    | .acts _ => .work kept next

/-- Carries out the acts for a frame, as long as there is fuel. -/
def reaction : (fuel : Nat) → (frame : Nat) → Reaction Scripted
  | 0, _ => .done
  | fuel + 1, frame =>
    .look fun s =>
      match nextAct frame (waiting s.body.script) with
      | none => .done
      | some (act, rest) =>
        .work (fun s => (s.log, { s.body with script := .acts rest })) <|
          .operate act.op (hear (.look fun s => reaction fuel s.clock.frame)) fun
            | .error f => .fail f
            | .ok _ => reaction fuel frame

theorem hear_run (next : Reaction Scripted) :
    (hear next).run = Action.andThen heard fun _ => next.run := by
  funext s
  simp only [hear, Reaction.run, heard, Action.andThen]
  cases h : s.body.script <;> simp [Reaction.run, h, Action.fail]

theorem act_eq_run : ∀ fuel frame : Nat, act fuel frame = (reaction fuel frame).run
  | 0, _ => rfl
  | fuel + 1, frame => by
    have again : (do heard; let s ← Action.get; act fuel s.clock.frame :
        Action (Timed Scripted) Unit) = (hear (.look fun s => reaction fuel s.clock.frame)).run := by
      rw [hear_run]
      simp only [Reaction.run, act_eq_run fuel]
      rfl
    funext s
    simp only [act, again, act_eq_run fuel frame]
    simp only [strike, reaction, Reaction.run, bind, Action.andThen]
    cases nextAct frame (waiting s.body.script) with
    | none => rfl
    | some found =>
      simp only [Reaction.run, Action.andThen]
      generalize found.1.op.perform _ _ = result
      obtain ⟨outcome, t⟩ := result
      cases outcome <;> rfl

/-- **The callbacks of scripts are reactions.** -/
theorem callback_eq_run :
    callback =
      (hear (.look fun s => reaction (waiting s.body.script).length s.clock.frame)).run := by
  rw [hear_run]
  funext s
  simp only [callback, Reaction.run, act_eq_run]
  rfl

end Scripted
end LedStudio
