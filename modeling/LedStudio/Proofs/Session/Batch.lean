import Mathlib.Data.List.Pairwise
import Mathlib.Data.List.ReduceOption
import LedStudio.Proofs.Http.Draft
import LedStudio.Proofs.Outcome
import LedStudio.Proofs.Session.Picture

/-!
# Setters in any order

A batch is some setters, at most one for each part of a session. What they set does not hang on
their order; what the LEDs show does not either, since the last of them to draw draws what all have
set. Where nothing is drawn, the LEDs are as they were, or blank if there is a new number of them.

* `perform_tune` — what a setter comes to, but for what is logged and heard.
* `Tuned` — what a batch comes to, told without its order.
* `setters_commute` — so the order does not count, and nor does a second time.
-/

namespace LedStudio

/-! ## Settings that are accepted -/

theorem PatternRef.isDeterministic_normalize (ref : PatternRef) :
    ref.normalize.isDeterministic = ref.isDeterministic := by
  rw [isDeterministic, isDeterministic, resolve_normalize]

/-- A number of LEDs that settings may have. -/
def Value.IsLit (count : Value) : Prop :=
  ∃ n, count.number? = some n ∧ StripConfig.isAtMostZero n = false

theorem Value.isLit_int {n : Int} (h : 1 ≤ n) : (Value.int n).IsLit := by
  refine ⟨.int n, rfl, ?_⟩
  rw [StripConfig.isAtMostZero, decide_eq_false_iff_not]
  omega

namespace StripConfig

variable {c : StripConfig} {count brightness speed v : Value}

theorem checked_isOk : (∃ c, checked count brightness speed = .ok c) ↔ count.IsLit := by
  unfold checked Value.IsLit
  cases count.number? with
  | none => simp
  | some n => cases hn : isAtMostZero n <;> simp [hn]

theorem withBrightness_isOk : (∃ d, c.withBrightness v = .ok d) ↔
    c.ledCount.IsLit ∧ ∃ b, clampBrightness v = .ok b := by
  simp only [withBrightness, bind, Except.bind]
  cases clampBrightness v with
  | error f => simp
  | ok b => simpa using checked_isOk

theorem withSpeed_isOk : (∃ d, c.withSpeed v = .ok d) ↔
    c.ledCount.IsLit ∧ ∃ k, clampSpeed v = .ok k := by
  simp only [withSpeed, bind, Except.bind]
  cases clampSpeed v with
  | error f => simp
  | ok k => simpa using checked_isOk

end StripConfig

/-! ## Batches -/

/-- What a setter sets. -/
inductive Part where
  | pattern | ledCount | brightness | speed
  deriving DecidableEq

namespace SessionOp

/-- The part that an operation sets, if it is a setter. -/
def part? : SessionOp → Option Part
  | .setPattern _ => some .pattern
  | .setLedCount _ => some .ledCount
  | .setBrightness _ => some .brightness
  | .setSpeed _ => some .speed
  | _ => none

/-- Setters, at most one for each part. -/
structure Batch (ops : List SessionOp) : Prop where
  setters : ∀ op ∈ ops, op.part?.isSome
  single : ops.Pairwise (·.part? ≠ ·.part?)

/-- The operation selects no random pattern. -/
def Steady : SessionOp → Prop
  | .setPattern ref => ref.isDeterministic = true
  | _ => True

/-- The operation sets the LEDs, in a session that runs or in one that does not. -/
def draws (running : Bool) (op : SessionOp) : Bool :=
  match op.part? with
  | some .ledCount => true
  | some .pattern | some .brightness => running
  | _ => false

/-- The settings take what the operation would set. -/
def Accepted (c : StripConfig) : SessionOp → Prop
  | .setLedCount v => ∃ d leds, c.withLedCount v = .ok d ∧ blankLeds d.ledCount = .ok leds
  | .setBrightness v => ∃ d, c.withBrightness v = .ok d
  | .setSpeed v => ∃ d, c.withSpeed v = .ok d
  | _ => True

theorem Batch.eq_of_part {ops : List SessionOp} (h : Batch ops) {x y : SessionOp} (hx : x ∈ ops)
    (hy : y ∈ ops) (hpart : x.part? = y.part?) : x = y := by
  have hsymm : Std.Symm fun x y : SessionOp => x.part? ≠ y.part? := ⟨fun _ _ hxy => hxy.symm⟩
  by_contra hne
  exact h.single.forall hx hy hne hpart

theorem Batch.perm {ops other : List SessionOp} (h : Batch ops) (hperm : ops.Perm other) :
    Batch other where
  setters op hop := h.setters op (hperm.mem_iff.2 hop)
  single := hperm.pairwise h.single fun {_ _} hxy => hxy.symm

end SessionOp

/-! ## What setters set -/

theorem Clock.after_setSpeed_congr (c : Clock) {v w : Value} (h : clampSpeed v = clampSpeed w) :
    c.after (.setSpeed v) = c.after (.setSpeed w) := by
  simp only [after, h]

/-- Nothing comes of setting the speed that the clock has. -/
theorem Clock.after_setSpeed_same {c : Clock} {v : Value} (h : clampSpeed v = .ok c.speed) :
    c.after (.setSpeed v) = c := by
  simp only [after, h, if_true]

theorem Clock.beginFresh_not_fresh (c : Clock) : c.beginFresh.cadence ≠ .fresh := by
  unfold beginFresh
  split
  · rw [sleep]
    dsimp only
    split
    · exact fun h => by cases h
    · exact fun h => by cases h
  · assumption

theorem Clock.beginFresh_of_begun {c : Clock} (h : c.cadence ≠ .fresh) : c.beginFresh = c := by
  unfold beginFresh
  split
  · next hfresh => exact absurd hfresh h
  · rfl

theorem Clock.settled_settled (c : Clock) : c.settled.settled = c.settled := by
  have hbegun : c.settled.cadence ≠ .fresh := c.beginFresh_not_fresh
  rw [settled, beginFresh_of_begun hbegun]
  rfl

/-- The speed may be set before the event loop runs, or after. -/
theorem Clock.settled_setSpeed (c : Clock) (v : Value) :
    (c.settled.after (.setSpeed v)).settled = (c.after (.setSpeed v)).settled := by
  simp only [after, c.alike_settled.speed, c.isRunning_settled]
  split
  · exact c.settled_settled
  · split
    · exact c.settled_settled
    · rcases c with ⟨speed, least, pos, frame, cadence, cancelled, hasLoop⟩
      split
      · cases cadence <;> rfl
      · next hidle => cases cadence <;> first | rfl | exact absurd rfl hidle

/-- What setters set: the pattern, the settings and the clock. -/
structure Tuning where
  pattern : PatternRef
  config : StripConfig
  clock : Clock

namespace Tuning

/-- Once an operation has set its part. -/
def set (x : Tuning) : SessionOp → Tuning
  | .setPattern ref => { x with pattern := ref.normalize }
  | .setLedCount v =>
    match clampLedCount v with
    | .ok n => { x with config := { x.config with ledCount := .int n } }
    | .error _ => x
  | .setBrightness v =>
    match clampBrightness v with
    | .ok b => { x with config := { x.config with brightness := .int b } }
    | .error _ => x
  | .setSpeed v =>
    match clampSpeed v with
    | .ok k =>
      { x with config := { x.config with speed := .int k }, clock := x.clock.after (.setSpeed v) }
    | .error _ => x
  | _ => x

/-- Once the event loop has run. -/
def settled (x : Tuning) : Tuning := { x with clock := x.clock.settled }

variable {x y : Tuning} {a b op : SessionOp} {ops other : List SessionOp}

/-- Operations on different parts can be carried out in either order. -/
theorem set_comm (h : a.part? ≠ b.part?) (x : Tuning) : (x.set a).set b = (x.set b).set a := by
  cases a <;> cases b <;> simp only [set] <;> try exact absurd rfl h
  all_goals repeat' split
  all_goals rfl

theorem set_set (x : Tuning) (op : SessionOp) : (x.set op).set op = x.set op := by
  cases op with
  | setSpeed v =>
    simp only [set]
    cases hk : clampSpeed v with
    | error f => rfl
    | ok k =>
      have hspeed := x.clock.after_setSpeed_speed hk
      simp only [Clock.after, hk] at hspeed ⊢
      rw [if_pos hspeed.symm]
  | _ =>
    simp only [set]
    try split
    all_goals rfl

/-- The event loop may run before an operation. -/
theorem settled_set (x : Tuning) (op : SessionOp) :
    (x.settled.set op).settled = (x.set op).settled := by
  cases op with
  | setSpeed v =>
    simp only [set]
    cases clampSpeed v with
    | error f => simp only [settled, Clock.settled_settled]
    | ok k => simp only [settled, Clock.settled_setSpeed]
  | _ =>
    simp only [set]
    try split
    all_goals simp only [settled, Clock.settled_settled]

theorem foldl_set_perm (h : SessionOp.Batch ops) (hperm : ops.Perm other) (x : Tuning) :
    ops.foldl set x = other.foldl set x := by
  refine hperm.foldl_eq' (fun a ha b hb y => ?_) x
  by_cases hpart : a.part? = b.part?
  · rw [h.eq_of_part ha hb hpart]
  · exact set_comm hpart y

/-- What a batch has set, it does not set again. -/
theorem set_foldl_of_mem (h : SessionOp.Batch ops) (hop : op ∈ ops) (x : Tuning) :
    (ops.foldl set x).set op = ops.foldl set x := by
  obtain ⟨front, back, rfl⟩ := List.append_of_mem hop
  have hperm : (front ++ op :: back).Perm ((front ++ back) ++ [op]) :=
    List.perm_middle.trans (List.perm_append_singleton _ _).symm
  rw [foldl_set_perm h hperm, List.foldl_append, List.foldl_cons, List.foldl_nil, set_set]

theorem steady_set (h : x.pattern.isDeterministic = true) (hop : op.Steady) :
    (x.set op).pattern.isDeterministic = true := by
  cases op with
  | setPattern ref => exact ref.isDeterministic_normalize.trans hop
  | _ =>
    simp only [set]
    try split
    all_goals exact h

/-- There stays to be an LED. -/
theorem lit_set (h : x.config.ledCount.IsLit) (op : SessionOp) :
    (x.set op).config.ledCount.IsLit := by
  cases op with
  | setLedCount v =>
    simp only [set]
    split
    · next n hn => exact Value.isLit_int (clampLedCount_pos hn)
    · exact h
  | _ =>
    simp only [set]
    try split
    all_goals exact h

/-- Settings that are accepted stay so. -/
theorem accepted_set (h : op.Accepted x.config) (a : SessionOp) : op.Accepted (x.set a).config := by
  cases op with
  | setLedCount v =>
    obtain ⟨d, leds, hd, hleds⟩ := h
    obtain ⟨n, hn, rfl⟩ := StripConfig.withLedCount_ok hd
    refine ⟨{ (x.set a).config with ledCount := .int n }, leds, ?_, hleds⟩
    simp only [StripConfig.withLedCount, hn, bind, Except.bind]
    exact StripConfig.checked_int (clampLedCount_pos hn) _ _
  | setBrightness v =>
    obtain ⟨hlit, hclamp⟩ := StripConfig.withBrightness_isOk.1 h
    exact StripConfig.withBrightness_isOk.2 ⟨lit_set hlit a, hclamp⟩
  | setSpeed v =>
    obtain ⟨hlit, hclamp⟩ := StripConfig.withSpeed_isOk.1 h
    exact StripConfig.withSpeed_isOk.2 ⟨lit_set hlit a, hclamp⟩
  | _ => trivial

end Tuning

namespace SessionState

variable {s t u v : SessionState} {op : SessionOp} {ops other : List SessionOp}

def tuning (s : SessionState) : Tuning := ⟨s.body.pattern, s.body.config, s.clock⟩

/-- The session with the LEDs that a setter leaves them with, which draws if the clock runs. -/
def redrawn (s : SessionState) : Outcome SessionState :=
  if s.clock.isRunning then
    s.picture.leds.map fun leds => { s with body := { s.body with leds } }
  else .ok s

/-- What a setter comes to where no listener operates the session, but for what is logged and
heard. -/
def tune (s : SessionState) : SessionOp → Outcome SessionState
  | .setPattern ref => redrawn { s with body := { s.body with pattern := ref.normalize } }
  | .setLedCount v => do
    let config ← s.body.config.withLedCount v
    let leds ← blankLeds config.ledCount
    redrawn { s with body := { s.body with config, leds } }
  | .setBrightness v => do
    let config ← s.body.config.withBrightness v
    redrawn { s with body := { s.body with config } }
  | .setSpeed v => do
    let config ← s.body.config.withSpeed v
    return { s with
      clock := s.clock.after (.setSpeed config.speed), body := { s.body with config } }
  | _ => .ok s

/-! ## One setter -/

/-- Sessions that are the same but for what is logged and heard. -/
theorem eq_of_clear (h : t.clear = s.clear) :
    ∃ log heard, t = { s with log := log, body := { s.body with heard := heard } } := by
  have hclock : t.clock = s.clock := (congrArg Timed.clock h :)
  have hbody : { t.body with heard := [] } = { s.body with heard := [] } :=
    (congrArg Timed.body h :)
  refine ⟨t.log, t.body.heard, ?_⟩
  calc t
    _ = { t with body := { { t.body with heard := [] } with heard := t.body.heard } } := rfl
    _ = _ := by rw [hbody, ← hclock]

/-- What was carried out comes to a session, but for what is logged and heard, or is refused. -/
def ComesTo {α : Type} (a : α) (ideal : Outcome SessionState) (real : Outcome α × SessionState) :
    Prop :=
  match ideal with
  | .ok t => ∃ v, real = (.ok a, v) ∧ v.clear = t.clear
  | .error f => real.1 = .error f

/-- An action that is given another value comes to the same. -/
theorem ComesTo.andThen_pure {set : SessionAction Unit} {ideal : Outcome SessionState} {α : Type}
    (h : ComesTo () ideal (set s)) (a : α) :
    ComesTo a ideal (Action.andThen set (fun _ => pure a) s) := by
  cases ideal with
  | ok t =>
    obtain ⟨v, hset, hclear⟩ := h
    exact ⟨v, Action.andThen_ok hset, hclear⟩
  | error f =>
    have hset : set s = (.error f, (set s).2) := Prod.ext h rfl
    exact congrArg Prod.fst (Action.andThen_error hset)

/-- The rendering of a setter. -/
theorem renderIfRunning_redrawn (hquiet : s.Undisturbed) (hstand : SameStand s t)
    (hsteady : t.body.pattern.isDeterministic = true) (log : Log) (fuel : Nat) :
    ComesTo () t.redrawn
      (Session.renderIfRunning (Session.notifyAll fuel) { t with log := log }) := by
  rw [Session.renderIfRunning_eq, redrawn]
  by_cases hrunning : t.clock.isRunning = true
  · have hpicture : picture { t with log := log } = t.picture := rfl
    rw [if_pos hrunning, if_pos hrunning, Session.render_eq, hpicture]
    cases t.picture.leds with
    | error f => exact rfl
    | ok leds =>
      have hstream : t.picture.stream = t.body.stream := computeFrame_stream hsteady _ _ _ _
      let drawn : SessionState := { spent { t with log := log } with
        body := { (spent { t with log := log }).body with leds } }
      obtain ⟨log', heard, htold, -⟩ :=
        Session.notifyAll_idle (s := drawn) fuel (hstand.undisturbed hquiet hrunning)
      refine ⟨_, htold, ?_⟩
      simp only [clear, drawn, spent, hpicture, hstream]
  · rw [if_neg hrunning, if_neg hrunning]
    exact ⟨_, rfl, rfl⟩

/-- **What a setter does**, if no listener operates the session meanwhile and the pattern is not a
random one. -/
theorem perform_tune (hquiet : s.Undisturbed) (hsteady : s.body.pattern.isDeterministic = true)
    (hset : op.part?.isSome) (hop : op.Steady) :
    ComesTo .nothing (s.tune op) (s.perform op) := by
  cases op with
  | setPattern ref =>
    refine ComesTo.andThen_pure ?_ _
    obtain ⟨log, heq⟩ := Session.setPattern_eq (s.notify 0) s ref
    have hnew : ref.normalize.isDeterministic = true := by
      rw [PatternRef.isDeterministic, PatternRef.resolve_normalize]
      exact hop
    show ComesTo () _ (Session.setPattern (s.notify 0) ref s)
    rw [heq]
    let t : SessionState := { s with body := { s.body with pattern := ref.normalize } }
    exact renderIfRunning_redrawn (t := t) hquiet ⟨rfl, rfl, rfl, rfl, rfl⟩ hnew _ _
  | setLedCount v =>
    refine ComesTo.andThen_pure ?_ _
    rw [Session.setLedCount_eq]
    simp only [tune, bind, Except.bind]
    cases s.body.config.withLedCount v with
    | error f => exact rfl
    | ok config =>
      dsimp only
      cases blankLeds config.ledCount with
      | error f => exact rfl
      | ok leds =>
        let t : SessionState := { s with body := { s.body with config, leds } }
        exact renderIfRunning_redrawn (t := t) hquiet ⟨rfl, rfl, rfl, rfl, rfl⟩ hsteady _ _
  | setBrightness v =>
    refine ComesTo.andThen_pure ?_ _
    rw [Session.setBrightness_eq]
    simp only [tune, bind, Except.bind]
    cases s.body.config.withBrightness v with
    | error f => exact rfl
    | ok config =>
      let t : SessionState := { s with body := { s.body with config } }
      exact renderIfRunning_redrawn (t := t) hquiet ⟨rfl, rfl, rfl, rfl, rfl⟩ hsteady _ _
  | setSpeed v =>
    refine ComesTo.andThen_pure ?_ _
    simp only [tune, bind, Except.bind]
    obtain ⟨log, hstate⟩ := Session.setSpeed_state s v
    cases hconfig : s.body.config.withSpeed v with
    | error f =>
      simp only [Session.setSpeed, bind, Action.andThen, Session.get, Action.lift, hconfig]
      exact rfl
    | ok config =>
      rw [hconfig] at hstate
      exact ⟨_, Prod.ext (Session.setSpeed_ok hconfig) hstate, rfl⟩
  | _ => cases hset

/-! ## What a setter leads to -/

/-- The LEDs are as a setter that draws leaves them. -/
def Drawn (s : SessionState) : Prop :=
  if s.clock.isRunning then s.Fresh else blankLeds s.body.config.ledCount = .ok s.body.leds

theorem redrawn_ok (h : s.redrawn = .ok t) : ∃ leds,
    t = { s with body := { s.body with leds } } ∧ (s.clock.isRunning = true → t.Fresh) ∧
      (s.clock.isRunning = false → leds = s.body.leds) := by
  unfold redrawn at h
  split at h
  · next hrunning =>
    obtain ⟨leds, hleds, rfl⟩ := Outcome.map_eq_ok h
    exact ⟨leds, rfl, fun _ => hleds, fun hidle => by rw [hrunning] at hidle; cases hidle⟩
  · next hidle =>
    obtain rfl := Except.ok.inj h
    exact ⟨s.body.leds, rfl, fun hrunning => absurd hrunning hidle, fun _ => rfl⟩

/-- What the LEDs show once a setter has drawn is determined by what the session holds. -/
theorem Drawn.unique (h : s.Drawn) (h' : t.Drawn) (hrunning : t.clock.isRunning = s.clock.isRunning)
    (hpicture : t.picture = s.picture)
    (hcount : t.body.config.ledCount = s.body.config.ledCount) : t.body.leds = s.body.leds := by
  unfold Drawn at h h'
  rw [hrunning, hcount] at h'
  split at h
  · next hclock =>
    rw [if_pos hclock, Fresh, hpicture, h] at h'
    exact (Except.ok.inj h').symm
  · next hclock =>
    rw [if_neg hclock, h] at h'
    exact (Except.ok.inj h').symm

theorem redrawn_self (h : s.clock.isRunning = true → s.Drawn) : s.redrawn = .ok s := by
  rw [redrawn]
  split
  · next hrunning =>
    have hfresh := h hrunning
    rw [Drawn, if_pos hrunning, Fresh] at hfresh
    rw [hfresh]
    rfl
  · rfl

theorem Drawn.blank (h : s.Drawn) (hidle : s.clock.isRunning = false) {leds : List Color}
    (hleds : blankLeds s.body.config.ledCount = .ok leds) : leds = s.body.leds := by
  rw [Drawn, if_neg (by rw [hidle]; exact Bool.false_ne_true), hleds] at h
  exact Except.ok.inj h

/-- What the LEDs were before counts only if nothing is drawn. -/
theorem redrawn_leds (h : s.Drawn) {leds : List Color}
    (hleds : s.clock.isRunning = false → leds = s.body.leds) :
    redrawn { s with body := { s.body with leds } } = .ok s := by
  cases hrunning : s.clock.isRunning with
  | true =>
    have hpicture : picture { s with body := { s.body with leds } } = s.picture := rfl
    rw [Drawn, if_pos hrunning, Fresh] at h
    rw [redrawn, if_pos hrunning, hpicture, h]
    rfl
  | false =>
    rw [hleds hrunning]
    exact redrawn_self fun _ => h

/-- What a setter leaves as it was. -/
structure Aside (s t : SessionState) : Prop where
  stand : SameStand s t
  stream : t.body.stream = s.body.stream
  code : t.body.code = s.body.code

theorem Aside.trans (h : Aside s t) (h' : Aside t u) : Aside s u where
  stand := h.stand.trans h'.stand
  stream := h'.stream.trans h.stream
  code := h'.code.trans h.code

/-- **Where a setter leads**: it sets its part and leaves the other parts, and it draws or leaves the
LEDs. -/
structure Leads (s : SessionState) (op : SessionOp) (t : SessionState) : Prop where
  tuning : t.tuning = s.tuning.set op
  aside : Aside s t
  accepted : op.Accepted s.body.config
  drawn : op.draws s.clock.isRunning = true → t.Drawn
  kept : op.draws s.clock.isRunning = false → t.body.leds = s.body.leds ∧ (s.Drawn → t.Drawn)

theorem drawn_of_running (hrunning : s.clock.isRunning = true) (h : s.Fresh) : s.Drawn := by
  rw [Drawn, if_pos hrunning]
  exact h

theorem drawn_of_idle (hidle : s.clock.isRunning = false)
    (h : blankLeds s.body.config.ledCount = .ok s.body.leds) : s.Drawn := by
  rw [Drawn, if_neg (by rw [hidle]; exact Bool.false_ne_true)]
  exact h

/-- What the LEDs show does not count unless the session runs. -/
theorem Drawn.of_eq (h : s.Drawn) (hrunning : t.clock.isRunning = s.clock.isRunning)
    (hpicture : s.clock.isRunning = true → t.picture = s.picture)
    (hcount : t.body.config.ledCount = s.body.config.ledCount)
    (hleds : t.body.leds = s.body.leds) : t.Drawn := by
  unfold Drawn at h ⊢
  rw [hrunning, hcount, hleds]
  split
  · next hclock => exact Fresh.of_eq (by rwa [if_pos hclock] at h) (hpicture hclock) hleds
  · next hclock => rwa [if_neg hclock] at h

/-- The picture does not count while the session does not run. -/
theorem Drawn.idle (h : s.Drawn) (hidle : s.clock.isRunning = false)
    (hrunning : t.clock.isRunning = s.clock.isRunning)
    (hcount : t.body.config.ledCount = s.body.config.ledCount)
    (hleds : t.body.leds = s.body.leds) : t.Drawn :=
  h.of_eq hrunning (fun hruns => absurd (hidle.symm.trans hruns) Bool.false_ne_true) hcount hleds

theorem tune_leads (hset : op.part?.isSome) (h : s.tune op = .ok t) : Leads s op t := by
  cases op with
  | setPattern ref =>
    obtain ⟨leds, rfl, hfresh, hkept⟩ := redrawn_ok h
    exact
      { tuning := rfl
        aside := ⟨⟨rfl, rfl, rfl, rfl, rfl⟩, rfl, rfl⟩
        accepted := trivial
        drawn := fun hrunning => drawn_of_running hrunning (hfresh hrunning)
        kept := fun hidle => ⟨hkept hidle, fun hs => hs.idle hidle rfl rfl (hkept hidle)⟩ }
  | setLedCount v =>
    obtain ⟨config, hconfig, h⟩ := Outcome.bind_eq_ok h
    obtain ⟨blank, hblank, h⟩ := Outcome.bind_eq_ok h
    obtain ⟨leds, rfl, hfresh, hkept⟩ := redrawn_ok h
    obtain ⟨n, hn, hcount⟩ := StripConfig.withLedCount_ok hconfig
    refine
      { tuning := ?_
        aside := ⟨⟨rfl, rfl, rfl, rfl, rfl⟩, rfl, rfl⟩
        accepted := ⟨config, blank, hconfig, hblank⟩
        drawn := fun _ => ?_
        kept := nofun }
    · simp only [tuning, Tuning.set, hn, hcount]
    · cases hrunning : s.clock.isRunning with
      | true => exact drawn_of_running hrunning (hfresh hrunning)
      | false =>
        obtain rfl := hkept hrunning
        exact drawn_of_idle hrunning hblank
  | setBrightness v =>
    obtain ⟨config, hconfig, h⟩ := Outcome.bind_eq_ok h
    obtain ⟨leds, rfl, hfresh, hkept⟩ := redrawn_ok h
    obtain ⟨b, hb, rfl⟩ := StripConfig.withBrightness_ok hconfig
    refine
      { tuning := ?_
        aside := ⟨⟨rfl, rfl, rfl, rfl, rfl⟩, rfl, rfl⟩
        accepted := ⟨_, hconfig⟩
        drawn := fun hrunning => drawn_of_running hrunning (hfresh hrunning)
        kept := fun hidle => ⟨hkept hidle, fun hs => hs.idle hidle rfl rfl (hkept hidle)⟩ }
    simp only [tuning, Tuning.set, hb]
  | setSpeed v =>
    obtain ⟨config, hconfig, h⟩ := Outcome.bind_eq_ok h
    obtain rfl := Except.ok.inj h
    obtain ⟨k, hk, rfl⟩ := StripConfig.withSpeed_ok hconfig
    have hrunning := s.clock.after_setSpeed_isRunning (.int k)
    have hframe : (s.clock.after (.setSpeed (.int k))).frame = s.clock.frame :=
      s.clock.after_frame rfl
    refine
      { tuning := ?_
        aside := ⟨⟨rfl, rfl, rfl, hframe, hrunning⟩, rfl, rfl⟩
        accepted := ⟨_, hconfig⟩
        drawn := nofun
        kept := fun _ => ⟨rfl, fun hs => hs.of_eq hrunning
          (fun _ => picture_eq rfl rfl rfl hframe rfl) rfl rfl⟩ }
    simp only [tuning, Tuning.set, hk]
    rw [Clock.after_setSpeed_congr s.clock ((clampSpeed_clamped hk).trans hk.symm)]
  | _ => cases hset

/-! ## What a batch leads to -/

/-- **What a batch leads to**, told without its order. -/
structure Tuned (s : SessionState) (ops : List SessionOp) (t : SessionState) : Prop where
  tuning : t.tuning.settled = (ops.foldl Tuning.set s.tuning).settled
  aside : Aside s t
  steady : t.body.pattern.isDeterministic = true
  accepted : ∀ op ∈ ops, op.Accepted t.body.config
  drawn : (∃ op ∈ ops, op.draws s.clock.isRunning = true) → t.Drawn
  kept : (∀ op ∈ ops, op.draws s.clock.isRunning = false) → t.body.leds = s.body.leds

namespace Tuned

theorem nil (h : s.body.pattern.isDeterministic = true) : Tuned s [] s where
  tuning := rfl
  aside := ⟨.refl s, rfl, rfl⟩
  steady := h
  accepted := nofun
  drawn := nofun
  kept _ := rfl

/-- What is logged and heard does not count. -/
theorem of_clear (h : Tuned s ops t) (hclear : u.clear = t.clear) : Tuned s ops u := by
  obtain ⟨log, heard, rfl⟩ := eq_of_clear hclear
  exact
    { tuning := h.tuning
      aside := ⟨⟨h.aside.stand.wiring, h.aside.stand.subscribers, h.aside.stand.listeners,
        h.aside.stand.frame, h.aside.stand.isRunning⟩, h.aside.stream, h.aside.code⟩
      steady := h.steady
      accepted := h.accepted
      drawn := h.drawn
      kept := h.kept }

/-- The event loop may run at any time. -/
theorem settle (h : Tuned s ops t) : Tuned s ops (Timed.settle t) where
  tuning := by
    rw [← h.tuning]
    exact congrArg (Tuning.mk t.body.pattern t.body.config) t.clock.settled_settled
  aside :=
    { stand := h.aside.stand.trans
        ⟨rfl, rfl, rfl, t.clock.alike_settled.frame, t.clock.isRunning_settled⟩
      stream := h.aside.stream
      code := h.aside.code }
  steady := h.steady
  accepted := h.accepted
  drawn hdraws := (h.drawn hdraws).of_eq t.clock.isRunning_settled (fun _ => t.settle_picture) rfl rfl
  kept := h.kept

/-- One setter more. -/
theorem concat (h : Tuned s ops t) (hop : op.Steady) (hlead : Leads t op u) :
    Tuned s (ops ++ [op]) u where
  tuning := by
    rw [List.foldl_append, List.foldl_cons, List.foldl_nil, hlead.tuning, ← Tuning.settled_set,
      h.tuning, Tuning.settled_set]
  aside := h.aside.trans hlead.aside
  steady := by
    have hpattern : u.body.pattern = (t.tuning.set op).pattern := congrArg Tuning.pattern hlead.tuning
    rw [hpattern]
    exact Tuning.steady_set h.steady hop
  accepted := by
    have hconfig : u.body.config = (t.tuning.set op).config := congrArg Tuning.config hlead.tuning
    rw [hconfig]
    intro x hx
    rcases List.mem_append.1 hx with hx | hx
    · exact Tuning.accepted_set (x := t.tuning) (h.accepted x hx) op
    · rw [List.mem_singleton.1 hx]
      exact Tuning.accepted_set (x := t.tuning) hlead.accepted op
  drawn := by
    rintro ⟨x, hx, hdraws⟩
    rw [← h.aside.stand.isRunning] at hdraws
    cases hlast : op.draws t.clock.isRunning with
    | true => exact hlead.drawn hlast
    | false =>
      rcases List.mem_append.1 hx with hx | hx
      · refine (hlead.kept hlast).2 (h.drawn ⟨x, hx, ?_⟩)
        rwa [← h.aside.stand.isRunning]
      · rw [List.mem_singleton.1 hx, hlast] at hdraws
        cases hdraws
  kept hnone := by
    obtain ⟨hfront, hlast⟩ := List.forall_mem_append.1 hnone
    have hop := hlast op (List.mem_singleton.2 rfl)
    rw [← h.aside.stand.isRunning] at hop
    exact (hlead.kept hop).1.trans (h.kept hfront)

theorem perm (h : Tuned s ops t) (hbatch : SessionOp.Batch ops) (hperm : ops.Perm other) :
    Tuned s other t where
  tuning := by rw [h.tuning, Tuning.foldl_set_perm hbatch hperm]
  aside := h.aside
  steady := h.steady
  accepted op hop := h.accepted op (hperm.mem_iff.2 hop)
  drawn := fun ⟨op, hop, hdraws⟩ => h.drawn ⟨op, hperm.mem_iff.2 hop, hdraws⟩
  kept hnone := h.kept fun op hop => hnone op (hperm.mem_iff.1 hop)

/-- A batch leads to one session, but for what is logged and heard. -/
theorem unique (h : Tuned s ops t) (h' : Tuned s ops u) :
    clear (Timed.settle u) = clear (Timed.settle t) := by
  have htuning : u.tuning.settled = t.tuning.settled := h'.tuning.trans h.tuning.symm
  have hclock : u.clock.settled = t.clock.settled := congrArg Tuning.clock htuning
  have hpattern : u.body.pattern = t.body.pattern := congrArg Tuning.pattern htuning
  have hconfig : u.body.config = t.body.config := congrArg Tuning.config htuning
  have hstream : u.body.stream = t.body.stream := h'.aside.stream.trans h.aside.stream.symm
  have hframe : u.clock.frame = t.clock.frame :=
    h'.aside.stand.frame.trans h.aside.stand.frame.symm
  have hpicture : u.picture = t.picture :=
    picture_eq hpattern (by rw [hconfig]) (by rw [hconfig]) hframe hstream
  have hrunning : u.clock.isRunning = t.clock.isRunning :=
    h'.aside.stand.isRunning.trans h.aside.stand.isRunning.symm
  have hleds : u.body.leds = t.body.leds := by
    by_cases hdraws : ∃ op ∈ ops, op.draws s.clock.isRunning = true
    · exact (h.drawn hdraws).unique (h'.drawn hdraws) hrunning hpicture (by rw [hconfig])
    · have hnone : ∀ op ∈ ops, op.draws s.clock.isRunning = false := fun op hop =>
        Bool.eq_false_iff.2 fun hop' => hdraws ⟨op, hop, hop'⟩
      rw [h.kept hnone, h'.kept hnone]
  show (⟨u.clock.settled, [], ⟨u.body.config, u.body.pattern, u.body.wiring, u.body.stream,
    u.body.leds, u.body.code, u.body.subscribers, u.body.listeners, []⟩⟩ : SessionState) = _
  rw [hclock, hconfig, hpattern, h'.aside.stand.wiring, ← h.aside.stand.wiring, hstream, hleds,
    h'.aside.code, ← h.aside.code, h'.aside.stand.subscribers, ← h.aside.stand.subscribers,
    h'.aside.stand.listeners, ← h.aside.stand.listeners]
  rfl

/-- What a batch has set, it does not set again. -/
theorem again (h : Tuned s ops t) (hbatch : SessionOp.Batch ops) (hop : op ∈ ops) :
    t.tune op = .ok t := by
  have hset := Tuning.set_foldl_of_mem hbatch hop s.tuning
  have hpattern : t.body.pattern = (ops.foldl Tuning.set s.tuning).pattern :=
    congrArg Tuning.pattern h.tuning
  have hconfig : t.body.config = (ops.foldl Tuning.set s.tuning).config :=
    congrArg Tuning.config h.tuning
  have hspeed : t.clock.speed = (ops.foldl Tuning.set s.tuning).clock.speed := by
    have hclock : t.clock.settled = (ops.foldl Tuning.set s.tuning).clock.settled :=
      congrArg Tuning.clock h.tuning
    rw [← t.clock.alike_settled.speed, hclock, Clock.alike_settled _ |>.speed]
  generalize ops.foldl Tuning.set s.tuning = x at hset hpattern hconfig hspeed
  have hdrawn (hdraws : op.draws s.clock.isRunning = true) : t.Drawn := h.drawn ⟨op, hop, hdraws⟩
  rw [← h.aside.stand.isRunning] at hdrawn
  have haccepted := h.accepted op hop
  cases op with
  | setPattern ref =>
    have hsame : ref.normalize = t.body.pattern := by
      rw [hpattern]
      exact congrArg Tuning.pattern hset
    rw [tune, hsame]
    exact redrawn_self hdrawn
  | setLedCount v =>
    obtain ⟨config, leds, hcount, hleds⟩ := haccepted
    obtain ⟨n, hn, rfl⟩ := StripConfig.withLedCount_ok hcount
    simp only [Tuning.set, hn] at hset
    have hsame : { t.body.config with ledCount := .int n } = t.body.config := by
      rw [hconfig]
      exact congrArg Tuning.config hset
    rw [hsame] at hcount hleds
    simp only [tune, bind, Except.bind, hcount, hleds]
    exact redrawn_leds (hdrawn rfl) fun hidle => (hdrawn rfl).blank hidle hleds
  | setBrightness v =>
    obtain ⟨config, hbrightness⟩ := haccepted
    obtain ⟨b, hb, rfl⟩ := StripConfig.withBrightness_ok hbrightness
    simp only [Tuning.set, hb] at hset
    have hsame : { t.body.config with brightness := .int b } = t.body.config := by
      rw [hconfig]
      exact congrArg Tuning.config hset
    rw [hsame] at hbrightness
    simp only [tune, bind, Except.bind, hbrightness]
    exact redrawn_self hdrawn
  | setSpeed v =>
    obtain ⟨config, hconfig'⟩ := haccepted
    obtain ⟨k, hk, rfl⟩ := StripConfig.withSpeed_ok hconfig'
    simp only [Tuning.set, hk] at hset
    have hsame : { t.body.config with speed := .int k } = t.body.config := by
      rw [hconfig]
      exact congrArg Tuning.config hset
    have hx : x.clock.speed = k := by
      rw [← congrArg Tuning.clock hset]
      exact x.clock.after_setSpeed_speed hk
    have hkept : t.clock.after (.setSpeed (.int k)) = t.clock := by
      refine Clock.after_setSpeed_same ?_
      rw [hspeed, hx]
      exact clampSpeed_clamped hk
    simp only [tune, bind, Except.bind, hconfig', hkept]
    rw [hsame]
    rfl
  | _ => rfl

end Tuned

/-- Carries out operations at one instant, until one fails. Where `none` stands the event loop
runs. -/
def atOnce (s : SessionState) : List (Option SessionOp) → Outcome Unit × SessionState
  | [] => (.ok (), s)
  | none :: rest => atOnce (Timed.settle s) rest
  | some op :: rest =>
    match s.perform op with
    | (.ok _, s) => atOnce s rest
    | (.error f, s) => (.error f, s)

variable {turns : List (Option SessionOp)}

/-- Setters at one instant lead where they lead as a batch. -/
theorem atOnce_tuned (hquiet : s.Undisturbed) (h : Tuned s ops t)
    (hsetters : ∀ op ∈ turns.reduceOption, op.part?.isSome)
    (hsteady : ∀ op ∈ turns.reduceOption, op.Steady) (hrun : t.atOnce turns = (.ok (), u)) :
    Tuned s (ops ++ turns.reduceOption) u := by
  induction turns generalizing t ops with
  | nil =>
    cases hrun
    rw [List.reduceOption_nil, List.append_nil]
    exact h
  | cons turn rest ih =>
    cases turn with
    | none => exact ih h.settle hsetters hsteady hrun
    | some op =>
      rw [List.reduceOption_cons_of_some] at hsetters hsteady ⊢
      obtain ⟨hop, hsetters⟩ := List.forall_mem_cons.1 hsetters
      obtain ⟨hcalm, hsteady⟩ := List.forall_mem_cons.1 hsteady
      have hperform := perform_tune (h.aside.stand.undisturbed hquiet) h.steady hop hcalm
      rw [atOnce] at hrun
      cases htune : t.tune op with
      | error f =>
        rw [htune] at hperform
        rcases hfailed : t.perform op with ⟨_ | result, v⟩
        · rw [hfailed] at hrun
          cases hrun
        · rw [hfailed] at hperform
          cases hperform
      | ok w =>
        rw [htune] at hperform
        obtain ⟨v, hv, hclear⟩ := hperform
        rw [hv] at hrun
        have hnext := ((h.concat hcalm (tune_leads hop htune)).of_clear hclear)
        rw [List.append_cons]
        exact ih hnext hsetters hsteady hrun

/-- Once more, the setters of a batch succeed and change nothing, but for what is logged and heard. -/
theorem atOnce_again (hquiet : s.Undisturbed) (h : Tuned s ops t) (hbatch : SessionOp.Batch ops)
    (hsteady : ∀ op ∈ ops, op.Steady) (hturns : ∀ op ∈ turns.reduceOption, op ∈ ops) :
    ∃ u, t.atOnce turns = (.ok (), u) ∧ clear (Timed.settle u) = clear (Timed.settle t) := by
  induction turns generalizing t with
  | nil => exact ⟨t, rfl, rfl⟩
  | cons turn rest ih =>
    cases turn with
    | none =>
      obtain ⟨u, hu, hsame⟩ := ih h.settle hturns
      refine ⟨u, hu, hsame.trans ?_⟩
      show (⟨t.clock.settled.settled, _, _⟩ : SessionState) = ⟨t.clock.settled, _, _⟩
      rw [t.clock.settled_settled]
      rfl
    | some op =>
      rw [List.reduceOption_cons_of_some] at hturns
      obtain ⟨hop, hrest⟩ := List.forall_mem_cons.1 hturns
      have hperform := perform_tune (h.aside.stand.undisturbed hquiet) h.steady
        (hbatch.setters op hop) (hsteady op hop)
      rw [h.again hbatch hop] at hperform
      obtain ⟨v, hv, hclear⟩ := hperform
      obtain ⟨u, hu, hsame⟩ := ih (h.of_clear hclear) hrest
      refine ⟨u, ?_, hsame.trans ?_⟩
      · rw [atOnce, hv]
        exact hu
      · obtain ⟨log, heard, rfl⟩ := eq_of_clear hclear
        rfl

/-- **Setters can come in any order, and once more they change nothing.** Take any session, whether
its clock runs or not, in which no subscribed listener operates it when something renders now, and
any batch of setters that are accepted, where the old pattern and the new one are not random ones and
every rendering succeeds. Carried out at one instant, in whatever order, and wherever the event loop
runs in between, they lead to the same session: settings, pattern, LEDs, and the clock with its frame,
its state and the time to its pending tick, just as the sketch, the random numbers that are left and
the listeners. The same batch right after that, in any order again, is carried out without fail and
leaves everything as it is. Only what is logged and what the listeners hear is left out. -/
theorem setters_commute (hquiet : s.Undisturbed) (hold : s.body.pattern.isDeterministic = true)
    (hbatch : SessionOp.Batch ops) (hnew : ∀ op ∈ ops, op.Steady)
    {turns other : List (Option SessionOp)} (hturns : turns.reduceOption.Perm ops)
    (hother : other.reduceOption.Perm ops) (ht : s.atOnce turns = (.ok (), t))
    (hu : s.atOnce other = (.ok (), u)) :
    clear (Timed.settle u) = clear (Timed.settle t) ∧
      ∀ again : List (Option SessionOp), again.reduceOption.Perm ops →
        ∃ v, t.atOnce again = (.ok (), v) ∧ clear (Timed.settle v) = clear (Timed.settle t) := by
  have htuned {some : List (Option SessionOp)} {w : SessionState} (hsome : some.reduceOption.Perm ops)
      (hw : s.atOnce some = (.ok (), w)) : Tuned s ops w := by
    refine Tuned.perm ?_ (hbatch.perm hsome.symm) hsome
    exact atOnce_tuned hquiet (.nil hold) (fun op hop => hbatch.setters op (hsome.mem_iff.1 hop))
      (fun op hop => hnew op (hsome.mem_iff.1 hop)) hw
  refine ⟨(htuned hturns ht).unique (htuned hother hu), fun again hagain => ?_⟩
  exact atOnce_again hquiet (htuned hturns ht) hbatch hnew fun op hop => hagain.mem_iff.1 hop

/-- Two LEDs that flash. -/
def twoFlashing : SessionSetup where
  config := ⟨.int 2, .int 10, .int 97⟩
  pattern := .id .strobe
  stream := .cycle #[]

/-- The session with a listener, once its clock is started. -/
def flashingFor (manner : Manner) (s : SessionState) : SessionState :=
  s.steps [.op (.subscribe "view" manner), .op .start]

/-- One setter for each part. -/
def fourSetters : List SessionOp :=
  [.setLedCount (.int 3), .setPattern (.value (.text " Police ")), .setBrightness (.int 120),
    .setSpeed (.int 50)]

/-- The setters in the other order, with the event loop running after each. -/
def fourTurns : List (Option SessionOp) := fourSetters.reverse.flatMap fun op => [some op, none]

theorem exists_of_isOk {r : Outcome Unit × SessionState} (h : r.1.isOk = true) :
    ∃ t, r = (.ok (), t) := by
  rcases r with ⟨_ | _, t⟩
  · cases h
  · exact ⟨t, rfl⟩

/-- The listener would select another pattern, but in another frame. -/
theorem setters_commute_flashing : ∃ s t, twoFlashing.create = .ok s ∧
    flashingFor (.act (some 7) [.setPattern (.id .rainbow)]) s = t ∧ t.clock.isRunning = true ∧
    ∃ u v w, t.atOnce (fourSetters.map some) = (.ok (), u) ∧ t.atOnce fourTurns = (.ok (), v) ∧
      clear (Timed.settle v) = clear (Timed.settle u) ∧ u.atOnce fourTurns = (.ok (), w) ∧
      clear (Timed.settle w) = clear (Timed.settle u) := by
  refine ⟨_, _, rfl, rfl, ?_⟩
  generalize ht : flashingFor _ _ = t
  have hrunning : t.clock.isRunning = true := by
    subst ht
    decide +kernel
  have hquiet : t.Undisturbed := by
    subst ht
    decide +kernel
  have hold : t.body.pattern.isDeterministic = true := by
    subst ht
    decide +kernel
  have hbatch : SessionOp.Batch fourSetters := ⟨by decide, by decide⟩
  have hpolice : (PatternRef.value (.text " Police ")).isDeterministic = true := by decide +kernel
  have hnew : ∀ op ∈ fourSetters, op.Steady := by
    simp only [fourSetters, List.forall_mem_cons]
    exact ⟨trivial, hpolice, trivial, trivial, nofun⟩
  have hturns : (fourSetters.map some).reduceOption.Perm fourSetters := .refl _
  have hother : fourTurns.reduceOption.Perm fourSetters := List.reverse_perm fourSetters
  obtain ⟨u, hu⟩ : ∃ u, t.atOnce (fourSetters.map some) = (.ok (), u) := by
    refine exists_of_isOk ?_
    subst ht
    decide +kernel
  obtain ⟨v, hv⟩ : ∃ v, t.atOnce fourTurns = (.ok (), v) := by
    refine exists_of_isOk ?_
    subst ht
    decide +kernel
  obtain ⟨hsame, hagain⟩ := setters_commute hquiet hold hbatch hnew hturns hother hu hv
  obtain ⟨w, hw, hkept⟩ := hagain fourTurns hother
  exact ⟨hrunning, u, v, w, hu, hv, hsame, hw, hkept⟩

/-- A listener that selects another pattern when it is called: what the first setter draws leads it to
do so, and the setter of the pattern counts only if it comes after that. -/
theorem disturbed_setters_differ : ∃ s t, twoFlashing.create = .ok s ∧
    flashingFor (.act none [.setPattern (.id .rainbow)]) s = t ∧
    t.body.pattern.isDeterministic = true ∧ ∃ ops, SessionOp.Batch ops ∧
      (∀ op ∈ ops, op.Steady) ∧ ∃ u v, t.atOnce (ops.map some) = (.ok (), u) ∧
        t.atOnce (ops.reverse.map some) = (.ok (), v) ∧
        u.body.pattern.ruleName = "police" ∧ v.body.pattern.ruleName = "rainbow" := by
  refine ⟨_, _, rfl, rfl, ?_⟩
  generalize ht : flashingFor _ _ = t
  have hold : t.body.pattern.isDeterministic = true := by
    subst ht
    decide +kernel
  let ops : List SessionOp := [.setLedCount (.int 3), .setPattern (.id .police)]
  have hfirst : (t.atOnce (ops.map some)).1.isOk = true ∧
      (t.atOnce (ops.map some)).2.body.pattern.ruleName = "police" := by
    subst ht
    decide +kernel
  have hsecond : (t.atOnce (ops.reverse.map some)).1.isOk = true ∧
      (t.atOnce (ops.reverse.map some)).2.body.pattern.ruleName = "rainbow" := by
    subst ht
    decide +kernel
  obtain ⟨u, hu⟩ := exists_of_isOk hfirst.1
  obtain ⟨v, hv⟩ := exists_of_isOk hsecond.1
  rw [hu] at hfirst
  rw [hv] at hsecond
  refine ⟨hold, ops, ⟨by decide, by decide⟩, ?_, u, v, hu, hv, hfirst.2, hsecond.2⟩
  simp only [ops, List.forall_mem_cons]
  exact ⟨trivial, rfl, nofun⟩

end SessionState
end LedStudio
