import LedStudio.Proofs.Clock.Failing
import LedStudio.Proofs.Session.Picture
import LedStudio.Proofs.Session.Tally

/-!
# The frame counts the ticks

The frame of a session is the number of ticks since it was last rewound, whoever made them and
whatever came of the renderings: a rendering that raises takes no tick back and makes no other.
Where the listeners leave the clock alone, or are never told because every rendering raises, the
clock goes the way it would go alone.

* `Counts.notifyAll` — what the listeners do when they are told of a picture is counted.
* `steps_counts` — what steps do to the frame.
* `steps_alone` — when the clock of a session goes the way it would go alone.
* `callback_failures_contained` — what failing callbacks change of a clock, which is nothing.
-/

namespace LedStudio

open LedStudio.Action (Agree Keeps)

/-! ## Counting -/

namespace Deed

/-- The frame once a deed has begun. -/
def count (frame : Nat) : Deed → Nat
  | .operation op .. => op.count frame
  | .tick _ => frame + 1
  | .rendering .. => frame

/-- The frame after deeds and all that went on in the course of them. -/
def counted (frame : Nat) (deeds : List Deed) : Nat := (allOf deeds).foldl count frame

end Deed

/-- The tally that is the frame. -/
def frameTally : Tally Nat where
  of frame _ := frame
  add := Deed.count
  operation _ _ _ _ _ _ := rfl
  tick _ _ _ := rfl

/-! ## What a ledger counts -/

namespace Ledger

variable {β γ : Type} {tell : Move Unit}

/-- What the action enters, counted from where it begins, is what becomes of the frame. -/
def Counts (begun : Nat → Nat) (a : Move β) : Prop := ∀ l, ∃ added,
  (a l).2.body.deeds = l.body.deeds ++ added ∧
  (a l).2.clock.frame = Deed.counted (begun l.clock.frame) added

namespace Counts

theorem pure (b : β) : Counts id (Pure.pure b : Move β) := Tallies.pure (T := frameTally) b

theorem fail (f : Fault) : Counts id (Action.fail f : Move β) := Tallies.fail (T := frameTally) f

theorem plain {a : SessionAction β} (h : ∀ frame, Keeps (SessionState.Still frame) a) :
    Counts id (plain a) :=
  fun l => ⟨[], (List.append_nil _).symm, h _ (forget l) rfl⟩

theorem bind {begun : Nat → Nat} {a : Move β} {next : β → Move γ} (ha : Counts begun a)
    (hnext : ∀ b, Counts id (next b)) : Counts begun (a >>= next) :=
  Tallies.bind (T := frameTally) ha hnext

theorem attempt {a : Move β} (ha : Counts id a) : Counts id a.attempt := ha

/-- The renderings of a session are counted by what its listeners do when they are told. -/
theorem render (htell : Counts id tell) : Counts id (render tell) := by
  intro l
  have hdraw : Counts id (draw tell) :=
    (plain fun _ => Session.render_still).bind fun _ => htell
  obtain ⟨parts, h⟩ := within_tallies (T := frameTally)
    (fun _ told => .rendering (forget l) told) (fun _ _ _ _ => rfl) (fun _ _ => rfl) hdraw l
  exact ⟨_, h⟩

theorem operation (htell : Counts id tell) (op : SessionOp) :
    Counts id (operation op (perform tell op)) :=
  Tallies.operation op (Tallies.perform (T := frameTally) (render htell) op)

/-! ### Listeners -/

theorem performAll (htell : Counts id tell) (ops : List SessionOp) :
    Counts id (performAll tell ops) := by
  induction ops with
  | nil => exact pure ()
  | cons op rest ih => exact (operation htell op).bind fun _ => ih

theorem call (htell : Counts id tell) (name : String) : Counts id (call tell name) := by
  refine (plain fun _ _ h => h).bind fun _ => ?_
  refine (plain (a := Action.get) fun _ _ h => h).bind fun s => ?_
  cases s.body.mannerOf name with
  | listen => exact pure ()
  | fail => exact fail _
  | act frame ops =>
    dsimp only
    split
    · exact (plain fun _ _ h => h).bind fun _ => performAll htell ops
    · exact pure ()

theorem serve (htell : Counts id tell) (names : List String) : Counts id (serve tell names) := by
  induction names with
  | nil => exact pure ()
  | cons name rest ih =>
    refine (call htell name).attempt.bind fun result => ?_
    cases result with
    | ok _ => exact ih
    | error f => exact (plain fun _ _ h => h).bind fun _ => ih

theorem notifyAll (fuel : Nat) : Counts id (notifyAll fuel) := by
  induction fuel with
  | zero => exact (plain fun _ _ h => h).bind fun b => serve (pure ()) b.subscribers
  | succ fuel ih => exact (plain fun _ _ h => h).bind fun b => serve ih b.subscribers

end Counts

/-! ## Steps -/

theorem run_counts (l : Timed Ledger) (op : SessionOp) : ∃ parts,
    let entered := .operation op l.clock.isRunning ((forget l).step (.op op)).1.isOk parts
    (run l op).body.deeds = l.body.deeds ++ [entered] ∧
    (run l op).clock.frame = Deed.counted l.clock.frame [entered] := by
  let fuel := l.body.session.actors + op.actors
  have houtcome : (perform (notifyAll fuel) op (clean l)).1 = ((forget l).step (.op op)).1 :=
    (perform_agree (notifyAll_agree fuel) op (clean l) (forget l) rfl).1
  rw [← houtcome]
  exact run_tallies (T := frameTally) (Counts.render (.notifyAll fuel)) op l

/-- **What steps do to the frame**: it is counted from what they enter. -/
theorem steps_counts (todo : List SessionStep) (l : Timed Ledger) : ∃ deeds,
    (steps l todo).body.deeds = l.body.deeds ++ deeds ∧ Follows (forget l) todo deeds ∧
    (steps l todo).clock.frame = Deed.counted l.clock.frame deeds := by
  induction todo generalizing l with
  | nil => exact ⟨[], (List.append_nil _).symm, rfl, rfl⟩
  | cons first rest ih =>
    obtain ⟨more, hmore, hfollows, hlast⟩ := ih (step l first)
    rw [← step_forget] at hfollows
    suffices h : ∃ made, (step l first).body.deeds = l.body.deeds ++ made ∧
        Follows (forget l) (first :: rest) (made ++ more) ∧
        (step l first).clock.frame = Deed.counted l.clock.frame made by
      obtain ⟨made, hmade, hall, hframe⟩ := h
      refine ⟨made ++ more, ?_, hall, ?_⟩
      · rw [← List.append_assoc, ← hmade]
        exact hmore
      · rw [hframe] at hlast
        exact hlast.trans (frameTally.sum_append _ _ _).symm
    cases first with
    | op op =>
      obtain ⟨parts, hdeeds, hframe⟩ := run_counts l op
      exact ⟨_, hdeeds, ⟨parts, more, rfl, hfollows⟩, hframe⟩
    | elapse ms =>
      obtain ⟨made, hdeeds, hticks, hframe⟩ := advance_tallies (T := frameTally)
        (Counts.render (.notifyAll (l.body.session.actors + 0))) ms l
      exact ⟨made, hdeeds, ⟨made, more, rfl, hticks, hfollows⟩, hframe⟩

end Ledger

/-! ## Sessions that leave their clock alone -/

/-- No listener has anything to carry out, or none is ever told because every rendering raises. -/
def Session.IsBystander (b : Session) : Prop :=
  b.actors = 0 ∨ ∀ frame stream, ∃ f,
    (computeFrame b.pattern b.config.ledCount frame b.config.brightness stream).leds = .error f

/-- A rendering of such a session leaves the clock alone. -/
theorem Session.render_bystander (fuel : Nat) {s : SessionState} (h : s.body.IsBystander) :
    (render (notifyAll fuel) s).2.clock = s.clock ∧
    (render (notifyAll fuel) s).2.body.IsBystander := by
  rw [render_eq]
  cases hleds : s.picture.leds with
  | error f => exact ⟨rfl, h⟩
  | ok leds =>
    have hquiet : s.body.actors = 0 := by
      refine h.resolve_right fun hraises => ?_
      obtain ⟨f, hf⟩ := hraises s.clock.frame s.body.stream
      exact nomatch hleds.symm.trans hf
    obtain ⟨log, heard, htold, -⟩ := notifyAll_harmless fuel
      { s.spent with body := { s.spent.body with leds } } hquiet
    simp only [htold]
    exact ⟨rfl, .inl hquiet⟩

/-- The operation on a session that passes an operation on to its clock. -/
def SessionOp.ofClock : ClockOp → SessionOp
  | .start => .start
  | .stop => .stop
  | .reset => .reset
  | .tick => .step
  | .setSpeed v => .setSpeed v

def SessionStep.ofClock : Scripted.Step → SessionStep
  | .op todo => .op (.ofClock todo)
  | .advance ms => .elapse ms

namespace SessionState

/-- The clock of the session is the one that drives nothing, and the session leaves it alone. -/
def Alone (s : SessionState) (t : Timed Unit) : Prop := s.clock = t.clock ∧ s.body.IsBystander

theorem alone_parallel : Timed.Parallel Alone where
  clock h := h.1
  turn h _ _ := ⟨rfl, h.2⟩

variable {s : SessionState} {t : Timed Unit}

theorem emit_alone (fuel : Nat) :
    Agree Alone (Timed.emit (Session.render (Session.notifyAll fuel)))
      (Timed.emit Timed.noCallback) := by
  rintro s t ⟨hclock, hsession⟩
  obtain ⟨hkept, hleft⟩ := Session.render_bystander fuel hsession
  refine ⟨(Timed.emit_result _ _).trans (Timed.emit_result _ _).symm, ?_⟩
  rw [Alone, Timed.emit_clock, Timed.emit_clock, Timed.emit_body]
  exact ⟨hkept.trans hclock, hleft⟩

/-- Setting the speed is left out: a session refuses a speed also for its other settings. -/
theorem perform_alone (fuel : Nat) {op : ClockOp} (hop : ∀ v, op ≠ .setSpeed v) (h : Alone s t) :
    Alone ((SessionOp.ofClock op).perform (Session.notifyAll fuel) s).2
      (op.perform Timed.noCallback t).2 := by
  have hstate : ((SessionOp.ofClock op).perform (Session.notifyAll fuel) s).2 =
      (op.perform (Session.render (Session.notifyAll fuel)) s).2 := by
    cases op with
    | setSpeed v => exact absurd rfl (hop v)
    | _ => exact (Action.andThen_pure_snd _ _ s).trans (Action.andThen_pure_snd _ _ s).symm
  rw [hstate]
  exact (alone_parallel.perform_emitted (emit_alone fuel) op s t h).2

theorem step_alone {todo : Scripted.Step} (hop : ∀ v, todo ≠ .op (.setSpeed v)) (h : Alone s t) :
    Alone (s.step (.ofClock todo)).2 (t.step Timed.noCallback todo) := by
  cases todo with
  | op op => exact alone_parallel.abreast.settle (perform_alone _ (fun v => hop v ∘ congrArg _) h)
  | advance ms => exact alone_parallel.advance_emitted (emit_alone _) ms h

/-- **Where nothing that its callback does reaches the clock, the session's clock goes the way it
would go alone.** -/
theorem steps_alone {todo : List Scripted.Step} (hop : ∀ v, .op (.setSpeed v) ∉ todo)
    (h : Alone s t) : Alone (s.steps (todo.map .ofClock)) (t.steps Timed.noCallback todo) := by
  induction todo generalizing s t with
  | nil => exact h
  | cons first rest ih =>
    refine ih (fun v => (hop v) ∘ List.mem_cons_of_mem first) (step_alone (fun v hv => ?_) h)
    exact hop v (hv ▸ List.mem_cons_self)

/-- A step gives the frame that it leaves, whatever came of the rendering. -/
theorem run_step_result (s : SessionState) :
    (s.run .step).1 = .ok (.frame (s.run .step).2.clock.frame) := by
  let callback := Session.render (s.notify SessionOp.step.actors)
  have htick : s.perform .step =
      (.ok (.frame (Timed.emit callback (Timed.poised .tick s)).2.clock.frame),
        (Timed.emit callback (Timed.poised .tick s)).2) :=
    Action.andThen_ok (Timed.tick_eq callback s)
  rw [run, htick, show (Timed.settle _).clock = Clock.settled _ from rfl,
    (Clock.alike_settled _).frame]

theorem run_reset_result (s : SessionState) : (s.run .reset).1 = .ok .nothing :=
  congrArg Prod.fst (Timed.emit_andThen (Session.render (s.notify SessionOp.reset.actors))
    (fun _ => pure SessionResult.nothing) (Timed.poised .reset s))

end SessionState

/-- It counts its calls and fails at every other one. -/
def everyOther : Reaction Nat :=
  .work (fun s => (s.log, s.body + 1)) (.look fun s =>
    if s.body % 2 = 1 then .fail (.raised "boom") else .done)

theorem everyOther_isBystander : everyOther.IsBystander := by
  intro s
  show (if s.body % 2 = 1 then Reaction.fail (.raised "boom") else .done).IsBystander
  split <;> trivial

/-- A strip without a brightness, so that no rendering succeeds. It ticks every three
milliseconds. -/
def unpainted : SessionState where
  clock := { speed := 97, minInterval := 1, minInterval_pos := Nat.one_pos }
  log := []
  body :=
    { config := ⟨.int 2, .text "bright", .int 97⟩, pattern := .id .rainbow, wiring := {},
      stream := .cycle #[], leds := [.black, .black] }

/-- Two ticks fall due, one is made by hand; the clock is rewound and ticks once more. -/
def tickingSteps : List Scripted.Step :=
  [.op .start, .advance 7, .op .tick, .op .reset, .op .tick]

end LedStudio
