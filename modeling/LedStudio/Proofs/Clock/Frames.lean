import LedStudio.Proofs.Clock.Diary
import Mathlib.Data.List.Chain

/-!
# The frames that are shown

Ticks come from callers, from callbacks and from the passing of time, and resets come in between.
Wherever a tick or a reset comes from, it calls the callback at once, with the number of ticks since
the last reset; nothing else calls the callback.

* `frames_in_order` — no frame is lost, shown twice or shown out of order.
-/

namespace LedStudio
namespace Chronicle

/-- The ticks since the last reset, or since the beginning. -/
def ticks : Chronicle → Nat
  | [] => 0
  | (_, .called .reset) :: _ => 0
  | (_, .called .tick) :: past | (_, .fired) :: past => ticks past + 1
  | _ :: past => ticks past

/-- The frames that the callback was called with, in order. -/
def frames : Chronicle → List Nat
  | [] => []
  | (_, .shown frame) :: past => frames past ++ [frame]
  | (_, .called _) :: past | (_, .fired) :: past => frames past

/-- Each tick and each reset is followed at once by the one call of the callback that it makes, and
there are no other calls. -/
inductive Regular : Chronicle → Prop where
  | nil : Regular []
  | quiet {past : Chronicle} (time : Nat) {op : ClockOp} : op.shows = false → Regular past →
      Regular ((time, .called op) :: past)
  | tick {past : Chronicle} (time : Nat) : Regular past →
      Regular ((time, .shown (ticks past + 1)) :: (time, .called .tick) :: past)
  | fired {past : Chronicle} (time : Nat) : Regular past →
      Regular ((time, .shown (ticks past + 1)) :: (time, .fired) :: past)
  | reset {past : Chronicle} (time : Nat) : Regular past →
      Regular ((time, .shown 0) :: (time, .called .reset) :: past)

theorem ticks_quiet (time : Nat) {op : ClockOp} (h : op.shows = false) (past : Chronicle) :
    ticks ((time, .called op) :: past) = ticks past := by
  cases op with
  | reset => simp [ClockOp.shows] at h
  | tick => simp [ClockOp.shows] at h
  | _ => rfl

/-- The last frame shown is the number of ticks since the last reset; before any, take the frame
of a new clock. -/
theorem Regular.getLast_frames {past : Chronicle} (h : Regular past) :
    (0 :: frames past).getLast? = some (ticks past) := by
  induction h with
  | nil => rfl
  | quiet time hop _ ih => rw [ticks_quiet time hop]; exact ih
  | tick time _ _ => rw [frames, ← List.cons_append, List.getLast?_concat]; rfl
  | fired time _ _ => rw [frames, ← List.cons_append, List.getLast?_concat]; rfl
  | reset time _ _ => rw [frames, ← List.cons_append, List.getLast?_concat]; rfl

/-- What comes after a frame: the next one, or zero. -/
def Follows (before after : Nat) : Prop := after = before + 1 ∨ after = 0

theorem isChain_append_frame {past : Chronicle} (hpast : Regular past)
    (hchain : (0 :: frames past).IsChain Follows) {frame : Nat}
    (h : Follows (ticks past) frame) : (0 :: (frames past ++ [frame])).IsChain Follows := by
  rw [← List.cons_append, List.isChain_append]
  refine ⟨hchain, List.isChain_singleton frame, fun x hx y hy => ?_⟩
  rw [hpast.getLast_frames, Option.mem_some_iff] at hx
  rw [List.head?_cons, Option.mem_some_iff] at hy
  rw [← hx, ← hy]
  exact h

theorem Regular.isChain_frames {past : Chronicle} (h : Regular past) :
    (0 :: frames past).IsChain Follows := by
  induction h with
  | nil => exact List.isChain_singleton 0
  | quiet _ _ _ ih => exact ih
  | tick _ hpast ih => exact isChain_append_frame hpast ih (.inl rfl)
  | fired _ hpast ih => exact isChain_append_frame hpast ih (.inl rfl)
  | reset _ hpast ih => exact isChain_append_frame hpast ih (.inr rfl)

end Chronicle

namespace Instant

/-- The past is regular, and the clock stands where it says. -/
structure Counted (m : Instant) : Prop where
  regular : m.past.Regular
  frame : m.clock.frame = m.past.ticks

namespace Counted

variable {m n : Instant}

theorem call (h : Counted m) (hcall : Call m n) : Counted n := by
  cases hcall with
  | quiet op hop =>
    refine ⟨h.regular.quiet m.now hop, ?_⟩
    rw [Chronicle.ticks_quiet m.now hop, ← h.frame]
    exact m.clock.after_frame hop
  | shows op hop =>
    cases op with
    | reset => exact ⟨h.regular.reset m.now, rfl⟩
    | tick =>
      have hframe : (m.clock.after .tick).frame = m.past.ticks + 1 :=
        congrArg (· + 1) h.frame
      rw [hframe]
      exact ⟨h.regular.tick m.now, hframe⟩
    | _ => simp [ClockOp.shows] at hop

theorem calls (h : Counted m) (hcalls : Calls m n) : Counted n := by
  induction hcalls with
  | refl => exact h
  | tail _ hcall ih => exact ih.call hcall

theorem struck (h : Counted m) (left ticks : Nat) : Counted (m.struck left ticks) := by
  unfold Instant.struck
  rw [h.frame]
  exact ⟨h.regular.fired (m.now + left), rfl⟩

theorem step (h : Counted m) (hstep : Step m n) : Counted n := by
  cases hstep with
  | operate hcalls =>
    have hn := h.calls hcalls
    exact ⟨hn.regular, (Clock.alike_settled _).frame.trans hn.frame⟩
  | fire _ hcalls =>
    have hn := (h.struck _ _).calls hcalls
    exact ⟨hn.regular, (Clock.alike_settled _).frame.trans
      ((Clock.alike_resume _ _).frame.trans hn.frame)⟩
  | wait _ _ => exact ⟨h.regular, h.frame⟩
  | idle _ _ => exact ⟨h.regular, h.frame⟩

theorem steps (h : Counted m) (hsteps : Steps m n) : Counted n := by
  induction hsteps with
  | refl => exact h
  | tail _ hstep ih => exact ih.step hstep

end Counted
end Instant

/-- An operation that fails calls nobody. -/
theorem Diary.past_of_error {α : Type} (r : Reaction α) {op : ClockOp} {s : Timed (Diary α)}
    {f : Fault} (h : (op.perform (Diary.callback r) s).1 = .error f) :
    (op.perform (Diary.callback r) s).2.body = s.body := by
  cases hs : op.shows with
  | false =>
    obtain ⟨answer, said, hop⟩ := Timed.perform_quiet hs
    rw [hop]
  | true =>
    obtain ⟨n, hop⟩ := Timed.perform_shows (Diary.callback r) hs s
    rw [hop] at h
    cases h

/-- **Frames come in order.** Take any clock, with or without an event loop, any callback and any
steps. Each tick, by whomever, and each reset calls the callback once and at once, and nothing else
calls it; so the first frame shown is one or zero, and each other one is one more than the last or
zero. The clock stands at the number of ticks since the last reset. An operation that fails calls
nobody. -/
theorem frames_in_order {α : Type} (r : Reaction α) (body : α) {hasLoop : Bool}
    {speed least : Value} {c : Clock} (hc : Clock.create hasLoop speed least = .ok c)
    (todo : List Scripted.Step) :
    let s := Diary.steps r (Diary.start c body) todo
    Diary.forget s = Timed.steps r.run ⟨c, [], body⟩ todo ∧
    Chronicle.Regular s.body.past ∧
    (0 :: Chronicle.frames s.body.past).IsChain Chronicle.Follows ∧
    s.clock.frame = Chronicle.ticks s.body.past ∧
    ∀ (op : ClockOp) (f : Fault), (op.perform (Diary.callback r) s).1 = .error f →
      (op.perform (Diary.callback r) s).2.body = s.body := by
  intro s
  obtain ⟨-, -, -, -, -, hframe, -⟩ := Clock.create_spec hc
  have hstart : (Diary.instant (Diary.start c body)).Counted := ⟨.nil, hframe⟩
  have hin := hstart.steps (Diary.steps_instant r todo _)
  exact ⟨(Diary.forget_steps r todo _).symm, hin.regular, hin.regular.isChain_frames, hin.frame,
    fun op f => Diary.past_of_error r⟩

/-- Rewinds the clock from inside the second tick, and fails when frame zero is shown for it. -/
def rewinding : Reaction Unit :=
  .look fun s =>
    if s.clock.frame = 2 then .operate .reset (.fail (.raised "boom")) fun _ => .done else .done

/-- The second tick shows two frames, and the clock stands still after it. -/
theorem frames_in_order_rewinding :
    let c : Clock := ⟨97, 1, Nat.one_pos, 0, .idle, [], true⟩
    let s := Diary.steps rewinding (Diary.start c ()) [.op .start, .advance 30, .op .tick]
    Clock.create true (.int 97) (.int 1) = .ok c ∧
    Chronicle.frames s.body.past = [1, 2, 0, 1] ∧
    (0 :: Chronicle.frames s.body.past).IsChain Chronicle.Follows ∧
    s.clock.frame = Chronicle.ticks s.body.past := by
  intro c s
  have hc : Clock.create true (.int 97) (.int 1) = .ok c := rfl
  have h := frames_in_order rewinding () hc [.op .start, .advance 30, .op .tick]
  exact ⟨hc, by decide +kernel, h.2.2.1, h.2.2.2.1⟩

end LedStudio
