import LedStudio.Proofs.Http.Task
import LedStudio.Proofs.Pattern.Reference

/-!
# Drafts

A sketch is written from a pattern and the settings of a strip: the draft. An operation that sets one
of them revises the draft, and renders if the clock runs; a listener may then operate the session, so
what is left of the draft is certain only where none does.

* `perform_revises` — one operation that sets something.
* `performEach_revises` — any of them, one after the other.
* `revise_perm` — in whatever order the operations for a request are carried out.
-/

namespace LedStudio

/-- What a sketch is written from, but for the wiring. -/
structure Draft where
  pattern : PatternRef
  config : StripConfig

/-- What the session's sketch is written from. -/
def SessionState.draft (s : SessionState) : Draft := ⟨s.body.pattern, s.body.config⟩

/-- The draft once something is set. -/
def Draft.revise (d : Draft) : SessionOp → Draft
  | .setPattern ref => { d with pattern := ref.normalize }
  | .setLedCount (.int n) =>
    { d with config := { d.config with ledCount := .int (ledCountRange.clampInt n) } }
  | .setBrightness (.int b) =>
    { d with config := { d.config with brightness := .int (brightnessRange.clampInt b) } }
  | .setSpeed (.int k) =>
    { d with config := { d.config with speed := .int (speedRange.clampInt k) } }
  | _ => d

/-- The operations that set the pattern, or a setting to an integer. -/
inductive SessionOp.Revises : SessionOp → Prop
  | pattern (ref : PatternRef) : Revises (.setPattern ref)
  | ledCount (n : Int) : Revises (.setLedCount (.int n))
  | brightness (b : Int) : Revises (.setBrightness (.int b))
  | speed (k : Int) : Revises (.setSpeed (.int k))

namespace SessionState

variable {s t u : SessionState}

/-- No subscribed listener operates the session if something renders now. It renders by itself only
while the clock runs. -/
def Undisturbed (s : SessionState) : Prop :=
  s.clock.isRunning = true → ∀ id ∈ s.body.subscribers, ¬s.IsDue id

instance (s : SessionState) : Decidable s.Undisturbed :=
  inferInstanceAs (Decidable (_ → _))

/-- The wiring, the listeners and the frame are the same. -/
structure SameStand (s t : SessionState) : Prop where
  wiring : t.body.wiring = s.body.wiring
  subscribers : t.body.subscribers = s.body.subscribers
  listeners : t.body.listeners = s.body.listeners
  frame : t.clock.frame = s.clock.frame
  isRunning : t.clock.isRunning = s.clock.isRunning

theorem SameStand.refl (s : SessionState) : SameStand s s := ⟨rfl, rfl, rfl, rfl, rfl⟩

theorem SameStand.trans (h : SameStand s t) (h' : SameStand t u) : SameStand s u where
  wiring := h'.wiring.trans h.wiring
  subscribers := h'.subscribers.trans h.subscribers
  listeners := h'.listeners.trans h.listeners
  frame := h'.frame.trans h.frame
  isRunning := h'.isRunning.trans h.isRunning

theorem SameStand.undisturbed (h : SameStand s t) (hquiet : s.Undisturbed) : t.Undisturbed := by
  intro hrunning id hid hdue
  rw [h.isRunning] at hrunning
  rw [h.subscribers] at hid
  refine hquiet hrunning id hid ?_
  unfold IsDue Session.mannerOf at hdue ⊢
  rwa [h.listeners, h.frame] at hdue

/-! ## One operation -/

/-- The rendering of a setter leaves the draft alone. -/
theorem renderIfRunning_draft (hquiet : s.Undisturbed) {fuel : Nat}
    (h : Session.renderIfRunning (Session.notifyAll fuel) u = (.ok (), t)) (hstand : SameStand s u) :
    t.draft = u.draft ∧ SameStand s t := by
  rw [Session.renderIfRunning_eq] at h
  by_cases hrunning : u.clock.isRunning = true
  · rw [if_pos hrunning, Session.render_eq] at h
    cases hleds : u.picture.leds with
    | error f =>
      rw [hleds] at h
      cases h
    | ok leds =>
      obtain ⟨log, heard, htold, -⟩ := Session.notifyAll_idle (s :=
        { u.spent with body := { u.spent.body with leds } }) fuel (hstand.undisturbed hquiet hrunning)
      simp only [hleds, htold] at h
      cases h
      exact ⟨rfl, hstand.trans ⟨rfl, rfl, rfl, rfl, rfl⟩⟩
  · rw [if_neg hrunning] at h
    cases h
    exact ⟨rfl, hstand⟩

theorem setLedCount_draft (hquiet : s.Undisturbed) {fuel : Nat} {n : Int}
    (h : Session.setLedCount (Session.notifyAll fuel) (.int n) s = (.ok (), t)) :
    t.draft = s.draft.revise (.setLedCount (.int n)) ∧ SameStand s t := by
  rw [Session.setLedCount_eq] at h
  by_cases hneg : n < 0
  · obtain ⟨f, hf⟩ := s.body.config.withLedCount_negative hneg
    rw [hf] at h
    cases h
  · rw [s.body.config.withLedCount_int (Int.not_lt.mp hneg)] at h
    cases hleds : blankLeds (.int (max 1 n)) with
    | error f =>
      simp only [hleds] at h
      cases h
    | ok leds =>
      simp only [hleds] at h
      obtain ⟨hdraft, hstand⟩ := renderIfRunning_draft hquiet h ⟨rfl, rfl, rfl, rfl, rfl⟩
      exact ⟨hdraft, hstand⟩

theorem setPattern_draft (hquiet : s.Undisturbed) {fuel : Nat} {ref : PatternRef}
    (h : Session.setPattern (Session.notifyAll fuel) ref s = (.ok (), t)) :
    t.draft = s.draft.revise (.setPattern ref) ∧ SameStand s t := by
  obtain ⟨log, hset⟩ := Session.setPattern_eq (Session.notifyAll fuel) s ref
  rw [hset] at h
  obtain ⟨hdraft, hstand⟩ := renderIfRunning_draft hquiet h ⟨rfl, rfl, rfl, rfl, rfl⟩
  exact ⟨hdraft, hstand⟩

theorem setBrightness_draft (hquiet : s.Undisturbed) {fuel : Nat} {b : Int}
    (h : Session.setBrightness (Session.notifyAll fuel) (.int b) s = (.ok (), t)) :
    t.draft = s.draft.revise (.setBrightness (.int b)) ∧ SameStand s t := by
  rw [Session.setBrightness_eq] at h
  cases hconfig : s.body.config.withBrightness (.int b) with
  | error f =>
    rw [hconfig] at h
    cases h
  | ok config =>
    obtain ⟨_, hb, rfl⟩ := StripConfig.withBrightness_ok hconfig
    cases hb
    simp only [hconfig] at h
    obtain ⟨hdraft, hstand⟩ := renderIfRunning_draft hquiet h ⟨rfl, rfl, rfl, rfl, rfl⟩
    exact ⟨hdraft, hstand⟩

theorem setSpeed_draft {k : Int} (h : Session.setSpeed (.int k) s = (.ok (), t)) :
    t.draft = s.draft.revise (.setSpeed (.int k)) ∧ SameStand s t := by
  cases hconfig : s.body.config.withSpeed (.int k) with
  | error f =>
    simp only [Session.setSpeed, bind, Action.andThen, Session.get, Action.lift, hconfig] at h
    cases h
  | ok config =>
    obtain ⟨_, hk, rfl⟩ := StripConfig.withSpeed_ok hconfig
    cases hk
    obtain ⟨log, hset⟩ := Session.setSpeed_state s (.int k)
    rw [h, hconfig] at hset
    obtain rfl : t = _ := hset
    exact ⟨rfl, rfl, rfl, rfl, s.clock.after_frame rfl, s.clock.after_setSpeed_isRunning _⟩

/-- **An operation that sets something revises the draft**, if no listener operates the session
meanwhile. -/
theorem perform_revises (hquiet : s.Undisturbed) {op : SessionOp} (hop : op.Revises)
    {result : SessionResult} (h : s.perform op = (.ok result, t)) :
    t.draft = s.draft.revise op ∧ SameStand s t := by
  cases hop with
  | pattern ref =>
    obtain ⟨_, hset⟩ := Action.andThen_pure_eq_ok h
    exact setPattern_draft hquiet hset
  | ledCount n =>
    obtain ⟨_, hset⟩ := Action.andThen_pure_eq_ok h
    exact setLedCount_draft hquiet hset
  | brightness b =>
    obtain ⟨_, hset⟩ := Action.andThen_pure_eq_ok h
    exact setBrightness_draft hquiet hset
  | speed k =>
    obtain ⟨_, hset⟩ := Action.andThen_pure_eq_ok h
    exact setSpeed_draft hset

/-! ## Any operations -/

/-- **Operations that set something revise the draft**, one after the other. -/
theorem performEach_revises (hquiet : s.Undisturbed) {ops : List SessionOp}
    (hops : ∀ op ∈ ops, op.Revises) (h : s.performEach ops = (.ok (), t)) :
    t.draft = ops.foldl Draft.revise s.draft ∧ SameStand s t := by
  induction ops generalizing s with
  | nil =>
    cases h
    exact ⟨rfl, .refl _⟩
  | cons op rest ih =>
    obtain ⟨hop, hrest⟩ := List.forall_mem_cons.mp hops
    simp only [performEach] at h
    split at h
    · rename_i result next hnext
      obtain ⟨hdraft, hstand⟩ := perform_revises hquiet hop hnext
      obtain ⟨hlast, hsame⟩ := ih (hstand.undisturbed hquiet) hrest h
      rw [hdraft] at hlast
      exact ⟨hlast, hstand.trans hsame⟩
    · cases h

end SessionState

namespace Http

/-- The operations for what a request for a sketch gives: the pattern and the settings. -/
def CodeRequest.operations (c : CodeRequest) : List SessionOp :=
  (c.pattern.map SessionOp.setPattern).toList ++ c.settings.operations

variable {c : CodeRequest}

theorem mem_operations {op : SessionOp} : op ∈ c.operations ↔
    (∃ ref, c.pattern = some ref ∧ op = .setPattern ref) ∨
    (∃ n, c.settings.ledCount = some n ∧ op = .setLedCount (.int n)) ∨
    (∃ b, c.settings.brightness = some b ∧ op = .setBrightness (.int b)) ∨
    (∃ k, c.settings.speed = some k ∧ op = .setSpeed (.int k)) := by
  simp only [CodeRequest.operations, ConfigUpdate.operations, List.mem_append, Option.mem_toList,
    Option.map_eq_some_iff, or_assoc, eq_comm (b := op)]

theorem revises_of_mem {op : SessionOp} (h : op ∈ c.operations) : op.Revises := by
  rcases mem_operations.mp h with
    ⟨ref, -, rfl⟩ | ⟨n, -, rfl⟩ | ⟨b, -, rfl⟩ | ⟨k, -, rfl⟩
  · exact .pattern ref
  · exact .ledCount n
  · exact .brightness b
  · exact .speed k

/-- Each operation of a request revises a part of its own. -/
theorem revise_comm {x y : SessionOp} (hx : x ∈ c.operations) (hy : y ∈ c.operations) (d : Draft) :
    (d.revise x).revise y = (d.revise y).revise x := by
  rcases mem_operations.mp hx with
      ⟨a, ha, rfl⟩ | ⟨a, ha, rfl⟩ | ⟨a, ha, rfl⟩ | ⟨a, ha, rfl⟩ <;>
    rcases mem_operations.mp hy with
      ⟨b, hb, rfl⟩ | ⟨b, hb, rfl⟩ | ⟨b, hb, rfl⟩ | ⟨b, hb, rfl⟩
  -- where both set the same, they are the same operation
  all_goals first
    | rfl
    | rw [Option.some.inj (ha.symm.trans hb)]

/-- The draft that a request asks for. -/
def CodeRequest.draft (c : CodeRequest) (d : Draft) : Draft where
  pattern := (c.pattern.map PatternRef.normalize).getD d.pattern
  config :=
    { ledCount := (c.settings.ledCount.map fun n => .int (ledCountRange.clampInt n)).getD
        d.config.ledCount
      brightness := (c.settings.brightness.map fun b => .int (brightnessRange.clampInt b)).getD
        d.config.brightness
      speed := (c.settings.speed.map fun k => .int (speedRange.clampInt k)).getD d.config.speed }

/-- The operations of a request come to the draft that it asks for, in whatever order. -/
theorem revise_perm {ops : List SessionOp} (hops : ops.Perm c.operations) (d : Draft) :
    ops.foldl Draft.revise d = c.draft d := by
  have horder : ops.foldl Draft.revise d = c.operations.foldl Draft.revise d :=
    hops.foldl_eq' (fun x hx y hy z =>
      revise_comm (hops.mem_iff.mp hx) (hops.mem_iff.mp hy) z) d
  rw [horder]
  rcases c with ⟨_ | _, _ | _, _ | _, _ | _⟩ <;> rfl

end Http
end LedStudio
