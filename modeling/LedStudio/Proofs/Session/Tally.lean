import LedStudio.Proofs.Session.Accounting

/-!
# Counting by the ledger

Some of what a session holds hangs only on its frame and on the calls of its listeners so far. To
know what becomes of it, it is enough to know what a rendering makes of it: whatever else goes on in
a session steps the frame on, rewinds it, or leaves both alone. So it can be told from the ledger.

* `Tallies.perform` — what an operation, with all that goes on in it, makes of such a tally.
* `run_tallies`, `advance_tallies` — what an operation by a caller and time that passes make of it.
-/

namespace LedStudio

open LedStudio.Action (Agree Keeps)

/-- The frame once an operation has begun. -/
def SessionOp.count (frame : Nat) : SessionOp → Nat
  | .step => frame + 1
  | .reset => 0
  | _ => frame

/-! ## What leaves the frame alone -/

/-- The frame stays. -/
def SessionState.Still (frame : Nat) (s : SessionState) : Prop := s.clock.frame = frame

open SessionState (Still)

namespace Session

variable {frame : Nat}

theorem render_still : Keeps (Still frame) (render (pure ())) := by
  intro s hs
  rw [render_eq]
  cases s.picture.leds <;> exact hs

theorem start_still : Keeps (Still frame) (Timed.start : SessionAction Unit) := by
  intro s hs
  obtain ⟨log, h⟩ := Timed.start_state s
  rw [h]
  exact s.clock.alike_start.frame.trans hs

theorem stop_still : Keeps (Still frame) (Timed.stop : SessionAction Unit) := by
  intro s hs
  obtain ⟨log, h⟩ := Timed.stop_state s
  rw [h]
  exact hs

theorem setSpeed_still (v : Value) : Keeps (Still frame) (setSpeed v) := by
  intro s hs
  obtain ⟨log, h⟩ := setSpeed_state s v
  rw [h]
  cases s.body.config.withSpeed v with
  | error f => exact hs
  | ok config => exact (s.clock.after_frame rfl).trans hs

theorem generateCode_still : Keeps (Still frame) generateCode := by
  intro s hs
  obtain ⟨log, code, h⟩ := generateCode_state s
  rw [h]
  exact hs

end Session

/-! ## What calls no listener -/

namespace SessionState

/-- The listeners have heard this. -/
def Hears (heard : List Heard) (s : SessionState) : Prop := s.body.heard = heard

variable {β : Type} {heard : List Heard}

theorem hears_inStep : InStep (Beside fun b => b.heard = heard) :=
  Beside.inStep
    (fun {f b} hf hb => by
      have hkept : (f { b with heard := b.heard }).heard = b.heard := by rw [hf.heard]
      exact hkept.trans hb)
    fun _ hb => hb

/-- What does the same to sessions side by side of which the same was heard calls no listener. -/
theorem hears_of_agree {a : SessionAction β} (h : Agree (Beside fun b => b.heard = heard) a a) :
    Keeps (Hears heard) a := fun s hs => (h s s ⟨hs, s.log, rfl⟩).2.1

/-- Where nobody is told of the renderings, no listener is called. -/
theorem perform_hears (op : SessionOp) : Keeps (Hears heard) (op.perform (pure ())) := by
  have henrol (f : Session → Session) (hf : ∀ b, (f b).heard = b.heard) :
      Agree (Beside fun b => b.heard = heard) (Session.modify f) (Session.modify f) := by
    rintro s _ ⟨hs, log, rfl⟩
    exact ⟨rfl, (hf s.body).trans hs, log, rfl⟩
  refine hears_of_agree (hears_inStep.perform_agree (.pure ()) ?_ ?_) <;>
  · intro id manner _
    refine henrol _ fun b => ?_
    obtain ⟨listeners, hb⟩ := Session.introduce_eq b id manner
    rw [hb]

end SessionState

open SessionState (Hears)

/-! ## Tallies -/

/-- Something that hangs on the frame and on what the listeners have heard, and what a deed makes of
it when it begins. -/
structure Tally (α : Type) where
  of : Nat → List Heard → α
  add : α → Deed → α
  operation : ∀ frame heard op running returned parts,
    add (of frame heard) (.operation op running returned parts) = of (op.count frame) heard
  tick : ∀ frame heard parts, add (of frame heard) (.tick parts) = of (frame + 1) heard

namespace Tally

variable {α : Type} (T : Tally α)

/-- What deeds, and all that went on in the course of them, make of it. -/
def sum (x : α) (deeds : List Deed) : α := (Deed.allOf deeds).foldl T.add x

def read (l : Timed Ledger) : α := T.of l.clock.frame l.body.session.heard

theorem sum_append (x : α) (xs ys : List Deed) : T.sum x (xs ++ ys) = T.sum (T.sum x xs) ys := by
  simp only [sum, Deed.allOf_append, List.foldl_append]

theorem sum_singleton (x : α) (d : Deed) : T.sum x [d] = T.sum (T.add x d) d.parts := by
  simp only [sum, Deed.allOf_singleton, List.foldl_cons]

end Tally

namespace Ledger

variable {α β γ : Type} {T : Tally α} {tell : Move Unit}

/-- What the action enters, summed up from where it begins, is what it makes of the tally. -/
def Tallies (T : Tally α) (begun : Nat → Nat) (a : Move β) : Prop := ∀ l, ∃ added,
  (a l).2.body.deeds = l.body.deeds ++ added ∧
  T.read (a l).2 = T.sum (T.of (begun l.clock.frame) l.body.session.heard) added

/-- What goes on in the course of a deed is summed up from where the deed begins. -/
theorem within_tallies (entry : Outcome β → List Deed → Deed) {begun : Nat → Nat}
    (hbegun : ∀ result parts frame heard,
      T.add (T.of frame heard) (entry result parts) = T.of (begun frame) heard)
    (hparts : ∀ result parts, (entry result parts).parts = parts) {a : Move β}
    (ha : Tallies T begun a) (l : Timed Ledger) : ∃ parts,
    (within entry a l).2.body.deeds = l.body.deeds ++ [entry (a (clean l)).1 parts] ∧
    T.read (within entry a l).2 = T.sum (T.read l) [entry (a (clean l)).1 parts] := by
  obtain ⟨parts, hdeeds, hread⟩ := ha (clean l)
  have hentered : (a (clean l)).2.body.deeds = parts := hdeeds
  refine ⟨parts, ?_, ?_⟩
  · rw [← hentered]
    rfl
  · have hbegins : T.add (T.read l) (entry (a (clean l)).1 parts) =
        T.of (begun l.clock.frame) l.body.session.heard := hbegun _ _ _ _
    rw [Tally.sum_singleton, hparts, hbegins]
    exact hread

theorem operation_tallies (op : SessionOp) {a : Move SessionResult} (ha : Tallies T op.count a)
    (l : Timed Ledger) : ∃ parts,
    let entered := .operation op l.clock.isRunning (a (clean l)).1.isOk parts
    (operation op a l).2.body.deeds = l.body.deeds ++ [entered] ∧
    T.read (operation op a l).2 = T.sum (T.read l) [entered] :=
  within_tallies (fun result parts => .operation op l.clock.isRunning result.isOk parts)
    (fun _ parts frame heard => T.operation frame heard op l.clock.isRunning _ parts)
    (fun _ _ => rfl) ha l

namespace Tallies

variable {begun : Nat → Nat}

theorem pure (b : β) : Tallies T id (Pure.pure b : Move β) :=
  fun _ => ⟨[], (List.append_nil _).symm, rfl⟩

theorem fail (f : Fault) : Tallies T id (Action.fail f : Move β) :=
  fun _ => ⟨[], (List.append_nil _).symm, rfl⟩

theorem plain {a : SessionAction β} (hframe : ∀ frame, Keeps (Still frame) a)
    (hheard : ∀ heard, Keeps (Hears heard) a) : Tallies T id (plain a) := by
  refine fun l => ⟨[], (List.append_nil _).symm, ?_⟩
  show T.of (a (forget l)).2.clock.frame (a (forget l)).2.body.heard = _
  rw [hframe _ (forget l) rfl, hheard _ (forget l) rfl]
  rfl

theorem bind {a : Move β} {next : β → Move γ} (ha : Tallies T begun a)
    (hnext : ∀ b, Tallies T id (next b)) : Tallies T begun (a >>= next) := by
  intro l
  obtain ⟨xs, hxs, hread⟩ := ha l
  show ∃ added, (Action.andThen a next l).2.body.deeds = _ ∧
    T.read (Action.andThen a next l).2 = _
  rcases h : a l with ⟨_ | b, m⟩
  · rw [h] at hxs hread
    rw [Action.andThen_error h]
    exact ⟨xs, hxs, hread⟩
  · rw [h] at hxs hread
    obtain ⟨ys, hys, hlast⟩ := hnext b m
    rw [Action.andThen_ok h]
    refine ⟨xs ++ ys, ?_, ?_⟩
    · rw [hys, hxs, List.append_assoc]
    · rw [hlast, Tally.sum_append, ← hread]
      rfl

/-! ### Operations -/

theorem renderIfRunning (hrender : Tallies T id (render tell)) :
    Tallies T id (renderIfRunning tell) := by
  intro l
  rw [renderIfRunning_eq]
  split
  · exact hrender l
  · exact pure () l

/-- A callback that fails has been called all the same. -/
theorem emit {a : Move Unit} (ha : Tallies T id a) : Tallies T id (Timed.emit a) := by
  intro l
  rw [Tally.read, Timed.emit_body, Timed.emit_clock]
  exact ha l

theorem reset (hrender : Tallies T id (render tell)) :
    Tallies T (fun _ => 0) (Timed.reset (render tell)) :=
  fun l => emit hrender (Timed.poised .reset l)

theorem tick (hrender : Tallies T id (render tell)) :
    Tallies T (· + 1) (Timed.tick (render tell)) := by
  intro l
  rw [Timed.tick_eq]
  exact emit hrender (Timed.poised .tick l)

/-- What is done as if the clock did not run leaves the clock alone. -/
theorem change (hrender : Tallies T id (render tell)) (op : SessionOp) :
    Tallies T id (change tell op) := by
  refine (plain (fun _ _ h => h) fun heard s hs => ?_).bind fun _ => ?_
  · exact SessionState.perform_hears op _ hs
  · exact (renderIfRunning hrender).bind fun _ => pure _

theorem play (hrender : Tallies T id (render tell)) : Tallies T id (play tell) := by
  have hstart (heard) : Keeps (Hears heard) Timed.start :=
    SessionState.hears_of_agree SessionState.hears_inStep.timed.start
  have hcode (heard) : Keeps (Hears heard) Session.generateCode :=
    SessionState.hears_of_agree SessionState.hears_inStep.generateCode
  refine (plain (fun _ => Session.start_still) hstart).bind fun _ => ?_
  refine hrender.bind fun _ => ?_
  exact (plain (fun _ => Session.generateCode_still) hcode).bind fun _ => pure _

theorem operation (op : SessionOp) {a : Move SessionResult} (ha : Tallies T op.count a) :
    Tallies T id (operation op a) := by
  intro l
  obtain ⟨parts, h⟩ := operation_tallies op ha l
  exact ⟨_, h⟩

/-- A prompt is applied by two operations of the session, and each is a deed of its own. -/
theorem applyPrompt (hrender : Tallies T id (render tell)) (v : Value) :
    Tallies T id (applyPrompt tell v) := by
  refine (plain (fun _ => .lift _) fun _ => .lift _).bind fun pattern => ?_
  refine (plain (fun _ _ h => h) fun _ _ h => h).bind fun _ => ?_
  refine (operation (.setPattern (.id pattern)) (change hrender _)).bind fun _ => ?_
  exact (operation .play (play hrender)).bind fun _ => pure _

/-- **What an operation makes of a tally**, with all that goes on in it. -/
theorem perform (hrender : Tallies T id (render tell)) (op : SessionOp) :
    Tallies T op.count (perform tell op) := by
  cases op with
  | reset => exact (reset hrender).bind fun _ => pure _
  | step => exact (tick hrender).bind fun _ => pure _
  | render => exact hrender.bind fun _ => pure _
  | play => exact play hrender
  | setLedCount v => exact change hrender _
  | setPattern ref => exact change hrender _
  | setBrightness v => exact change hrender _
  | applyPrompt v => exact applyPrompt hrender v
  | start =>
    exact plain (fun _ => Session.start_still.bind fun _ => .pure _)
      fun _ => SessionState.perform_hears _
  | stop =>
    exact plain (fun _ => Session.stop_still.bind fun _ => .pure _)
      fun _ => SessionState.perform_hears _
  | generateCode =>
    exact plain (fun _ => Session.generateCode_still.bind fun _ => .pure _)
      fun _ => SessionState.perform_hears _
  | setSpeed v =>
    exact plain (fun _ => (Session.setSpeed_still v).bind fun _ => .pure _)
      fun _ => SessionState.perform_hears _
  | subscribe id manner =>
    exact plain (fun _ _ h => h) fun _ => SessionState.perform_hears _
  | unsubscribe id manner =>
    exact plain (fun _ _ h => h) fun _ => SessionState.perform_hears _

end Tallies

/-! ## Steps -/

/-- What an operation by a caller makes of a tally. -/
theorem run_tallies (hrender : Tallies T id (render tell)) (op : SessionOp) (l : Timed Ledger) :
    ∃ parts,
    let entered := .operation op l.clock.isRunning (perform tell op (clean l)).1.isOk parts
    (operation op (perform tell op) l).2.settle.body.deeds = l.body.deeds ++ [entered] ∧
    T.read (operation op (perform tell op) l).2.settle = T.sum (T.read l) [entered] := by
  obtain ⟨parts, hdeeds, hread⟩ := operation_tallies op (.perform hrender op) l
  refine ⟨parts, hdeeds, ?_⟩
  rw [← hread]
  show T.of (Clock.settled _).frame _ = _
  rw [(Clock.alike_settled _).frame]
  rfl

/-- A tick that falls due counts, and then what its callback does. -/
theorem fire_tallies (hrender : Tallies T id (render tell)) (ticks : Nat) (l : Timed Ledger) :
    ∃ parts, (fire (render tell) ticks l).body.deeds = l.body.deeds ++ [.tick parts] ∧
      T.read (fire (render tell) ticks l) = T.sum (T.read l) [.tick parts] := by
  have hfire : Tallies T (· + 1) (Action.modify (Timed.fire (render tell) ticks)) := by
    intro l
    obtain ⟨parts, hdeeds, hread⟩ := Tallies.emit hrender (Timed.struck ticks l)
    refine ⟨parts, ?_⟩
    simp only [Action.modify, Timed.fire_eq]
    refine ⟨hdeeds, Eq.trans ?_ hread⟩
    show T.of (Clock.settled _).frame _ = _
    rw [(Clock.alike_settled _).frame, (Clock.alike_resume _ ticks).frame]
    rfl
  exact within_tallies (fun _ parts => .tick parts)
    (fun _ parts frame heard => T.tick frame heard parts) (fun _ _ => rfl) hfire l

theorem advance_tallies (hrender : Tallies T id (render tell)) (ms : Nat) (l : Timed Ledger) :
    ∃ made, (advance (render tell) ms l).body.deeds = l.body.deeds ++ made ∧
      (∀ d ∈ made, d.IsTick) ∧ T.read (advance (render tell) ms l) = T.sum (T.read l) made := by
  fun_induction advance (render tell) ms l with
  | case1 ms l left pos ticks hc hle ih =>
    obtain ⟨parts, hdeeds, hread⟩ := fire_tallies hrender ticks l
    obtain ⟨made, hmade, hticks, hlast⟩ := ih
    refine ⟨.tick parts :: made, ?_, List.forall_mem_cons.2 ⟨trivial, hticks⟩, ?_⟩
    · rw [hmade, hdeeds, List.append_assoc]
      rfl
    · rw [hlast, hread, ← Tally.sum_append]
      rfl
  | case2 ms l left pos ticks hc hlt =>
    exact ⟨[], (List.append_nil _).symm, List.forall_mem_nil _, rfl⟩
  | case3 ms l hc => exact ⟨[], (List.append_nil _).symm, List.forall_mem_nil _, rfl⟩

end Ledger
end LedStudio
