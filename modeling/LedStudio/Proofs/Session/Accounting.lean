import LedStudio.Proofs.Pattern.Sampling
import LedStudio.Proofs.Session.Ledger
import LedStudio.Proofs.Session.Twin

/-!
# Every random number is accounted for

Which random numbers a picture is made of hangs on all that went on before it. The ledger of a
session tells it: every operation and every tick renders as often as it is to, every rendering of a
random pattern reads one number for each LED, from where the rendering before it left off, and
nothing else reads any. A snapshot only looks at the session and is not entered.

* `perform_booked` — what one operation enters.
* `steps_booked` — what steps enter.
* `renderings_accounted` — so a rendering reads from behind all that earlier renderings read.
-/

namespace LedStudio

/-! ## What is to be entered -/

namespace SessionState

/-- The random numbers that a rendering of the session reads. -/
def spends (s : SessionState) : Nat :=
  match s.body.pattern.resolve, s.body.config.ledCount with
  | some .fire, .int n => n.toNat
  | some .sparkle, .int n => n.toNat
  | _, _ => 0

/-- A rendering of the session reads the numbers it is to read, and makes LED `k` of a random
pattern from the `k`-th of them. -/
structure Accounted (s : SessionState) : Prop where
  stream : s.picture.stream = s.body.stream.skip s.spends
  leds : ∀ p, s.body.pattern.resolve = some p → p.isRandom = true →
    ∃ n leds, s.body.config.ledCount = .int n ∧ s.spends = n.toNat ∧
      s.picture.leds = .ok leds ∧ leds.length = n.toNat ∧ ∀ k < n.toNat, ∃ c, leds[k]? = some c ∧
        painted (some p) s.clock.frame n s.body.config.brightness k
          (s.body.stream.sample (s.body.stream.drawn + k)) = .ok c

end SessionState

/-- The operation renders, once, in a session that runs or in one that does not. -/
def SessionOp.renders (running : Bool) : SessionOp → Bool
  | .step | .reset | .render | .play => true
  | .setLedCount _ | .setPattern _ | .setBrightness _ => running
  | _ => false

namespace Deed

mutual
/-- The deed and all that went on in the course of it, in the order in which it began. -/
def all : Deed → List Deed
  | .operation op running returned parts => .operation op running returned parts :: allOf parts
  | .tick parts => .tick parts :: allOf parts
  | .rendering s told => .rendering s told :: allOf told

def allOf : List Deed → List Deed
  | [] => []
  | d :: rest => d.all ++ allOf rest
end

/-- What went on in the course of the deed. -/
def parts : Deed → List Deed
  | .operation _ _ _ parts => parts
  | .tick parts => parts
  | .rendering _ told => told

/-- The session as it was when it was rendered. -/
def rendered? : Deed → Option SessionState
  | .rendering s _ => some s
  | _ => none

/-- The renderings in the order in which they were made. -/
def renderings (deeds : List Deed) : List SessionState := (allOf deeds).filterMap rendered?

def IsOperation : Deed → Prop
  | .operation .. => True
  | _ => False

def IsTick : Deed → Prop
  | .tick _ => True
  | _ => False

/-- What goes on in an operation that returns: it renders once or never, and a prompt is a selection
and a play. -/
def Fits (running : Bool) (parts : List Deed) : SessionOp → Prop
  | .applyPrompt prompt => ∃ pattern runs first second,
      suggest keywordTable fallbackPattern prompt = .ok pattern ∧
      parts = [.operation (.setPattern (.id pattern)) running true first,
        .operation .play runs true second]
  | op => if op.renders running then ∃ s told, parts = [.rendering s told] else parts = []

/-- What the deed says of itself is in order. -/
def Accounted : Deed → Prop
  | .operation op running returned parts => returned = true → Fits running parts op
  | .tick parts => ∃ s told, parts = [.rendering s told]
  | .rendering s told => s.Accounted ∧ ∀ d ∈ told, d.IsOperation

theorem allOf_append (xs ys : List Deed) : allOf (xs ++ ys) = allOf xs ++ allOf ys := by
  induction xs with
  | nil => rfl
  | cons d rest ih => simp only [List.cons_append, allOf, ih, List.append_assoc]

theorem renderings_append (xs ys : List Deed) :
    renderings (xs ++ ys) = renderings xs ++ renderings ys := by
  simp only [renderings, allOf_append, List.filterMap_append]

theorem allOf_singleton (d : Deed) : allOf [d] = d :: allOf d.parts := by
  cases d <;> simp only [allOf, all, parts, List.append_nil]

theorem renderings_singleton (d : Deed) :
    renderings [d] = d.rendered?.toList ++ renderings d.parts := by
  rw [renderings, allOf_singleton]
  cases d <;> rfl

end Deed

open Deed (renderings)

/-- Each rendering begins where the one before left off, and what comes last is what they left. -/
def Chain (start : Stream) : List SessionState → Stream → Prop
  | [], last => last = start
  | s :: rest, last => s.body.stream = start ∧ Chain (start.skip s.spends) rest last

theorem Chain.append {xs ys : List SessionState} {start middle last : Stream}
    (hxs : Chain start xs middle) (hys : Chain middle ys last) : Chain start (xs ++ ys) last := by
  induction xs generalizing start with
  | nil =>
    obtain rfl := hxs
    exact hys
  | cons s rest ih => exact ⟨hxs.1, ih hxs.2⟩

/-- A rendering begins behind all that the ones before it read. -/
theorem Chain.stream {before after : List SessionState} {s : SessionState} {start last : Stream}
    (h : Chain start (before ++ s :: after) last) :
    s.body.stream = start.skip (before.map (·.spends)).sum := by
  induction before generalizing start with
  | nil => exact h.1
  | cons first rest ih =>
    rw [ih h.2, Stream.skip_skip, List.map_cons, List.sum_cons]

theorem Chain.last {renderings : List SessionState} {start last : Stream}
    (h : Chain start renderings last) : last = start.skip (renderings.map (·.spends)).sum := by
  induction renderings generalizing start with
  | nil => exact h
  | cons first rest ih => rw [ih h.2, Stream.skip_skip, List.map_cons, List.sum_cons]

/-! ## Renderings -/

/-- The settings are integers in their ranges. -/
def StripConfig.Ranged (c : StripConfig) : Prop :=
  ∃ n b k : Int, 1 ≤ n ∧ 10 ≤ b ∧ b ≤ 100 ∧ c = ⟨.int n, .int b, .int k⟩

theorem StripConfig.ranged_stable : Stable Ranged where
  ledCount := by
    rintro c d v ⟨n, b, k, -, hlow, hhigh, rfl⟩ h
    obtain ⟨m, hm, rfl⟩ := withLedCount_ok h
    exact ⟨m, b, k, clampLedCount_pos hm, hlow, hhigh, rfl⟩
  brightness := by
    rintro c d v ⟨n, b, k, hn, -, -, rfl⟩ h
    obtain ⟨m, hm, rfl⟩ := withBrightness_ok h
    obtain ⟨hlow, hhigh⟩ := clampBrightness_range hm
    exact ⟨n, m, k, hn, hlow, hhigh, rfl⟩
  speed := by
    rintro c d v ⟨n, b, k, hn, hlow, hhigh, rfl⟩ h
    obtain ⟨m, -, rfl⟩ := withSpeed_ok h
    exact ⟨n, b, m, hn, hlow, hhigh, rfl⟩

/-- The settings are in their ranges and the random numbers are from zero up to one. -/
structure Session.Fit (b : Session) : Prop where
  config : b.config.Ranged
  samples : ∀ k, (b.stream.sample k).IsUnit

theorem SessionState.spends_deterministic {s : SessionState}
    (h : s.body.pattern.isDeterministic = true) : s.spends = 0 := by
  unfold PatternRef.isDeterministic at h
  unfold spends
  cases hp : s.body.pattern.resolve with
  | none => rfl
  | some p =>
    rw [hp] at h
    cases p <;> first | rfl | cases h

/-- **A rendering is in order** as long as the settings and the random numbers are. -/
theorem SessionState.accounted {s : SessionState} (h : s.body.Fit) : s.Accounted := by
  by_cases hdet : s.body.pattern.isDeterministic = true
  · refine ⟨?_, fun p hp hrandom => ?_⟩
    · rw [spends_deterministic hdet]
      exact computeFrame_stream hdet _ _ _ _
    · simp [PatternRef.isDeterministic, hp, hrandom] at hdet
  · obtain ⟨n, b, k, hn, -, -, hconfig⟩ := h.config
    obtain ⟨p, hp, hrandom⟩ := PatternRef.resolve_random hdet
    have hspends : s.spends = n.toNat := by
      unfold spends
      rw [hp, hconfig]
      cases p <;> first | rfl | cases hrandom
    obtain ⟨hstream, leds, hleds, hlength, hpaint⟩ :=
      computeFrame_random hp hrandom hn b s.clock.frame h.samples
    have hpicture : s.picture =
        computeFrame s.body.pattern (.int n) s.clock.frame (.int b) s.body.stream := by
      rw [picture, hconfig]
    refine ⟨by rw [hpicture, hspends]; exact hstream, fun q hq hrandom' => ?_⟩
    obtain rfl := Option.some.inj (hp.symm.trans hq)
    refine ⟨n, leds, by rw [hconfig], hspends, by rw [hpicture]; exact hleds, hlength, ?_⟩
    rw [hconfig]
    exact hpaint

/-! ## What is not entered -/

/-- The session has these random numbers left, and settings in their ranges. -/
def SessionState.Calm (stream : Stream) (s : SessionState) : Prop :=
  s.body.stream = stream ∧ s.body.config.Ranged

open SessionState (Calm)
open LedStudio.Action (Keeps)

namespace Session

variable {stream : Stream}

theorem modify_calm {f : Session → Session} (hstream : ∀ b, (f b).stream = b.stream)
    (hconfig : ∀ b, (f b).config = b.config) : Keeps (Calm stream) (modify f) :=
  .modify fun s hs => ⟨(hstream s.body).trans hs.1, (hconfig s.body).symm ▸ hs.2⟩

theorem start_calm : Keeps (Calm stream) (Timed.start : SessionAction Unit) := by
  intro s hs
  obtain ⟨log, h⟩ := Timed.start_state s
  rw [h]
  exact hs

theorem generateCode_calm : Keeps (Calm stream) generateCode := by
  intro s hs
  obtain ⟨log, code, h⟩ := generateCode_state s
  rw [h]
  exact hs

theorem setSpeed_calm (v : Value) : Keeps (Calm stream) (setSpeed v) := by
  intro s hs
  obtain ⟨log, h⟩ := setSpeed_state s v
  rw [h]
  cases hconfig : s.body.config.withSpeed v with
  | error f => exact hs
  | ok config => exact ⟨hs.1, StripConfig.ranged_stable.speed hs.2 hconfig⟩

theorem introduce_calm (id : String) (manner : Manner) (subscribers : Session → List String) :
    Keeps (Calm stream)
      (modify fun b => { b.introduce id manner with subscribers := subscribers b }) := by
  refine modify_calm (fun b => ?_) fun b => ?_ <;>
    obtain ⟨listeners, hb⟩ := introduce_eq b id manner <;> rw [hb]

/-- What does not render leaves the random numbers alone. -/
theorem perform_calm {op : SessionOp} (hop : op.renders true = false)
    (hprompt : ∀ v, op ≠ .applyPrompt v) : Keeps (Calm stream) (op.perform (pure ())) := by
  cases op with
  | start => exact start_calm.bind fun _ => .pure _
  | stop =>
    refine Keeps.bind (fun s hs => ?_) fun _ => .pure _
    obtain ⟨log, h⟩ := Timed.stop_state s
    rw [h]
    exact hs
  | generateCode => exact generateCode_calm.bind fun _ => .pure _
  | setSpeed v => exact (setSpeed_calm v).bind fun _ => .pure _
  | subscribe id manner => exact (introduce_calm id manner _).bind fun _ => .pure _
  | unsubscribe id manner => exact (introduce_calm id manner _).bind fun _ => .pure _
  | applyPrompt v => exact absurd rfl (hprompt v)
  | _ => cases hop

/-- A setter leaves the random numbers alone as long as the clock does not run. -/
theorem setter_calm {op : SessionOp} (hop : ∀ running, op.renders running = running) :
    Keeps (Calm stream) (Ledger.resting (op.perform (pure ()))) := by
  intro s hs
  let t : SessionState := { s with clock := { s.clock with cadence := .idle } }
  suffices hdone : Calm stream (op.perform (pure ()) t).2 from hdone
  have hidle : ¬t.clock.isRunning = true := Bool.false_ne_true
  cases op with
  | setLedCount v =>
    show Calm stream (Action.andThen (setLedCount (pure ()) v) _ t).2
    rw [Action.andThen_pure_snd, setLedCount_eq]
    cases hconfig : t.body.config.withLedCount v with
    | error f => exact hs
    | ok config =>
      have hranged := StripConfig.ranged_stable.ledCount hs.2 hconfig
      dsimp only
      cases blankLeds config.ledCount with
      | error f => exact ⟨hs.1, hranged⟩
      | ok leds =>
        dsimp only
        rw [renderIfRunning_eq, if_neg hidle]
        exact ⟨hs.1, hranged⟩
  | setPattern ref =>
    show Calm stream (Action.andThen (setPattern (pure ()) ref) _ t).2
    obtain ⟨log, hset⟩ := setPattern_eq (pure ()) t ref
    rw [Action.andThen_pure_snd, hset, renderIfRunning_eq, if_neg hidle]
    exact hs
  | setBrightness v =>
    show Calm stream (Action.andThen (setBrightness (pure ()) v) _ t).2
    rw [Action.andThen_pure_snd, setBrightness_eq]
    cases hconfig : t.body.config.withBrightness v with
    | error f => exact hs
    | ok config =>
      dsimp only
      rw [renderIfRunning_eq, if_neg hidle]
      exact ⟨hs.1, StripConfig.ranged_stable.brightness hs.2 hconfig⟩
  | reset | step | render | play => cases hop false
  | _ => cases hop true

end Session

namespace Ledger

variable {β : Type} {l m k : Timed Ledger} {xs ys : List Deed}

/-- What was entered on the way from one ledger to another is in order. -/
structure Booked (l m : Ledger) (added : List Deed) : Prop where
  deeds : m.deeds = l.deeds ++ added
  accounted : ∀ d ∈ Deed.allOf added, d.Accounted
  chain : Chain l.session.stream (renderings added) m.session.stream
  fit : m.session.Fit

theorem Booked.refl {l : Ledger} (h : l.session.Fit) : Booked l l [] where
  deeds := (List.append_nil _).symm
  accounted := List.forall_mem_nil _
  chain := rfl
  fit := h

theorem Booked.trans {l m k : Ledger} (h : Booked l m xs) (h' : Booked m k ys) :
    Booked l k (xs ++ ys) where
  deeds := by rw [h'.deeds, h.deeds, List.append_assoc]
  accounted := by
    rw [Deed.allOf_append]
    exact List.forall_mem_append.2 ⟨h.accounted, h'.accounted⟩
  chain := by
    rw [Deed.renderings_append]
    exact h.chain.append h'.chain
  fit := h'.fit

theorem plain_booked {a : SessionAction β} (h : ∀ stream, Keeps (Calm stream) a)
    (hl : l.body.session.Fit) : Booked l.body (plain a l).2.body [] := by
  obtain ⟨hstream, hconfig⟩ := h _ (forget l) ⟨rfl, hl.config⟩
  exact
    { deeds := (List.append_nil _).symm
      accounted := List.forall_mem_nil _
      chain := hstream
      fit := ⟨hconfig, fun k => (congrArg (fun s : Stream => (s.sample k).IsUnit) hstream).mpr
        (hl.samples k)⟩ }

/-- One thing after another: what the second enters follows what the first entered. -/
theorem bind_booked {γ : Type} {first : Move β} {next : β → Move γ}
    {P : Outcome γ → List Deed → Prop} (hfirst : Booked l.body (first l).2.body xs)
    (herror : ∀ f, P (.error f) xs)
    (hnext : ∀ b m, first l = (.ok b, m) → m.body.session.Fit → ∃ ys,
      Booked m.body (next b m).2.body ys ∧ P (next b m).1 (xs ++ ys)) :
    ∃ zs, Booked l.body (Action.andThen first next l).2.body zs ∧
      P (Action.andThen first next l).1 zs := by
  rcases h : first l with ⟨f | b, m⟩
  · rw [h] at hfirst
    rw [Action.andThen_error h]
    exact ⟨xs, hfirst, herror f⟩
  · rw [h] at hfirst
    obtain ⟨ys, hbooked, hys⟩ := hnext b m h hfirst.fit
    rw [Action.andThen_ok h]
    exact ⟨xs ++ ys, hfirst.trans hbooked, hys⟩

theorem andThen_booked {γ : Type} {first : Move β} {next : β → Move γ} {fits : List Deed → Prop}
    (hfirst : Booked l.body (first l).2.body xs)
    (hnext : ∀ b m, first l = (.ok b, m) → m.body.session.Fit → ∃ ys,
      Booked m.body (next b m).2.body ys ∧ ((next b m).1.isOk = true → fits (xs ++ ys))) :
    ∃ zs, Booked l.body (Action.andThen first next l).2.body zs ∧
      ((Action.andThen first next l).1.isOk = true → fits zs) :=
  bind_booked (P := fun result zs => result.isOk = true → fits zs) hfirst
    (fun _ h => absurd h Bool.false_ne_true) hnext

/-- What is done and entered starts with an empty page. -/
def clean (l : Timed Ledger) : Timed Ledger := { l with body := { l.body with deeds := [] } }

/-- What is entered for something is in order if it is itself, and what went on in the course of it
is. -/
theorem within_booked (entry : Outcome β → List Deed → Deed)
    (hparts : ∀ result parts, (entry result parts).parts = parts) {a : Move β} {begun : Ledger}
    {parts : List Deed} (hclean : begun.deeds = []) (h : Booked begun (a (clean l)).2.body parts)
    (hentry : (entry (a (clean l)).1 parts).Accounted)
    (hchain : Chain l.body.session.stream (renderings [entry (a (clean l)).1 parts])
      (a (clean l)).2.body.session.stream) :
    Booked l.body (within entry a l).2.body [entry (a (clean l)).1 parts] := by
  have hdeeds : (a (clean l)).2.body.deeds = parts := by
    rw [h.deeds, hclean, List.nil_append]
  have hbody : (within entry a l).2.body = { (a (clean l)).2.body with
      deeds := l.body.deeds ++ [entry (a (clean l)).1 (a (clean l)).2.body.deeds] } := rfl
  rw [hbody, hdeeds]
  exact
    { deeds := rfl
      accounted := by
        rw [Deed.allOf_singleton, hparts]
        exact List.forall_mem_cons.2 ⟨hentry, h.accounted⟩
      chain := hchain
      fit := h.fit }

/-! ## Renderings -/

/-- What is entered is in order, and it is operations. -/
def Tells (a : Move β) : Prop := ∀ l : Timed Ledger, l.body.session.Fit →
  ∃ told, Booked l.body (a l).2.body told ∧ ∀ d ∈ told, d.IsOperation

variable {tell : Move Unit}

theorem plain_clean (a : SessionAction β) (l : Timed Ledger) :
    plain a (clean l) = ((a (forget l)).1, opened (a (forget l)).2) := rfl

/-- A picture is drawn, and then the listeners are told of it unless that failed. -/
theorem drawn_booked (htell : Tells tell) (hl : l.body.session.Fit) :
    ∃ drawn told, drawn.session.stream = (forget l).picture.stream ∧ drawn.deeds = [] ∧
      Booked drawn (draw tell (clean l)).2.body told ∧ ∀ d ∈ told, d.IsOperation := by
  have hspent (leds : List Color) : ({ (forget l).spent.body with leds } : Session).Fit :=
    ⟨hl.config, fun k => by
      show ((forget l).picture.stream.sample k).IsUnit
      rw [(SessionState.accounted (s := forget l) hl).stream]
      exact hl.samples k⟩
  have hrender := Session.render_eq (pure ()) (forget l)
  cases hleds : (forget l).picture.leds with
  | error f =>
    rw [hleds] at hrender
    have hdraw : draw tell (clean l) = (.error f, opened (forget l).spent) := by
      refine Action.andThen_error ?_
      rw [plain_clean, hrender]
    rw [hdraw]
    exact ⟨_, [], rfl, rfl, .refl (hspent _), List.forall_mem_nil _⟩
  | ok leds =>
    rw [hleds] at hrender
    let drawn : Timed Ledger :=
      opened { (forget l).spent with body := { (forget l).spent.body with leds } }
    have hdraw : draw tell (clean l) = tell drawn := by
      refine Action.andThen_ok (a := ()) ?_
      rw [plain_clean, hrender]
      rfl
    obtain ⟨told, hbooked, hops⟩ := htell drawn (hspent leds)
    rw [hdraw]
    exact ⟨drawn.body, told, rfl, rfl, hbooked, hops⟩

/-- **A rendering is entered once.** -/
theorem render_booked (htell : Tells tell) (hl : l.body.session.Fit) :
    ∃ told, Booked l.body (render tell l).2.body [.rendering (forget l) told] := by
  have horder : (forget l).Accounted := SessionState.accounted hl
  obtain ⟨drawn, told, hdrawn, hclean, hbooked, hops⟩ := drawn_booked htell hl
  have hchain := hbooked.chain
  rw [hdrawn, horder.stream] at hchain
  refine ⟨told, within_booked (fun _ told => .rendering (forget l) told) (fun _ _ => rfl) hclean
    hbooked ⟨horder, hops⟩ ?_⟩
  rw [Deed.renderings_singleton]
  exact ⟨rfl, hchain⟩

theorem emit_booked (htell : Tells tell) (hl : l.body.session.Fit) :
    ∃ s told, Booked l.body (Timed.emit (render tell) l).2.body [.rendering s told] := by
  obtain ⟨told, h⟩ := render_booked htell hl
  exact ⟨forget l, told, by rwa [Timed.emit_body]⟩

/-! ## Operations -/

/-- What an operation enters is in order, and fits if it returns. -/
def Performs (op : SessionOp) (a : Move SessionResult) : Prop :=
  ∀ l : Timed Ledger, l.body.session.Fit → ∃ parts, Booked l.body (a l).2.body parts ∧
    ((a l).1.isOk = true → Deed.Fits l.clock.isRunning parts op)

theorem operation_booked {op : SessionOp} {a : Move SessionResult} (ha : Performs op a)
    (hl : l.body.session.Fit) : ∃ parts, Booked l.body (operation op a l).2.body
      [.operation op l.clock.isRunning (operation op a l).1.isOk parts] := by
  obtain ⟨parts, hbooked, hfits⟩ := ha (clean l) hl
  refine ⟨parts, ?_⟩
  refine within_booked (fun result parts => .operation op l.clock.isRunning result.isOk parts)
    (fun _ _ => rfl) rfl hbooked hfits ?_
  rw [Deed.renderings_singleton]
  exact hbooked.chain

theorem unshown_fits {running : Bool} {op : SessionOp} (h : op.renders running = false)
    (hprompt : ∀ v, op ≠ .applyPrompt v) : Deed.Fits running [] op := by
  cases op with
  | applyPrompt v => exact absurd rfl (hprompt v)
  | _ => simp only [Deed.Fits, h, Bool.false_eq_true, if_false]

theorem plain_performs {op : SessionOp} (hnever : ∀ running, op.renders running = false)
    (hprompt : ∀ v, op ≠ .applyPrompt v) : Performs op (plain (op.perform (pure ()))) := fun _ hl =>
  ⟨[], plain_booked (fun _ => Session.perform_calm (hnever true) hprompt) hl,
    fun _ => unshown_fits (hnever _) hprompt⟩

theorem renderIfRunning_eq (tell : Move Unit) (l : Timed Ledger) : renderIfRunning tell l =
    if l.clock.isRunning then render tell l else (.ok (), l) := by
  show (if l.clock.isRunning then render tell else pure ()) l = _
  split <;> rfl

theorem shown_fits {running : Bool} {op : SessionOp} (h : op.renders running = true)
    (s : SessionState) (told : List Deed) : Deed.Fits running [.rendering s told] op := by
  cases op with
  | applyPrompt v => cases h
  | _ =>
    simp only [Deed.Fits, h, if_true]
    exact ⟨s, told, rfl⟩

/-- An action whose only entry is a rendering. -/
theorem Performs.of_rendering {op : SessionOp} {a : Move SessionResult}
    (h : ∀ l : Timed Ledger, l.body.session.Fit →
      ∃ s told, Booked l.body (a l).2.body [.rendering s told])
    (hop : ∀ running, op.renders running = true) : Performs op a := by
  intro l hl
  obtain ⟨s, told, hbooked⟩ := h l hl
  exact ⟨_, hbooked, fun _ => shown_fits (hop _) s told⟩

theorem reset_performs (htell : Tells tell) :
    Performs .reset (do Timed.reset (render tell); return .nothing) := by
  refine .of_rendering (fun l hl => ?_) fun _ => rfl
  obtain ⟨s, told, hbooked⟩ := emit_booked htell (l := Timed.poised .reset l) hl
  refine ⟨s, told, ?_⟩
  show Booked l.body (Action.andThen (Timed.reset (render tell)) _ l).2.body _
  rw [Action.andThen_pure_snd]
  exact hbooked

theorem step_performs (htell : Tells tell) :
    Performs .step (do return .frame (← Timed.tick (render tell))) := by
  refine .of_rendering (fun l hl => ?_) fun _ => rfl
  obtain ⟨s, told, hbooked⟩ := emit_booked htell (l := Timed.poised .tick l) hl
  refine ⟨s, told, ?_⟩
  show Booked l.body (Action.andThen (Timed.tick (render tell)) _ l).2.body _
  rw [Action.andThen_pure_snd, Timed.tick_eq]
  exact hbooked

theorem render_performs (htell : Tells tell) :
    Performs .render (do render tell; return .nothing) := by
  refine .of_rendering (fun l hl => ?_) fun _ => rfl
  obtain ⟨told, hbooked⟩ := render_booked htell hl
  refine ⟨forget l, told, ?_⟩
  show Booked l.body (Action.andThen (render tell) _ l).2.body _
  rw [Action.andThen_pure_snd]
  exact hbooked

theorem play_performs (htell : Tells tell) : Performs .play (play tell) := by
  intro l hl
  refine andThen_booked (plain_booked (fun _ => Session.start_calm) hl) fun _ m _ hm => ?_
  obtain ⟨told, hrendered⟩ := render_booked htell hm
  refine andThen_booked hrendered fun _ k _ hk => ⟨[], ?_, fun _ => shown_fits rfl _ _⟩
  show Booked k.body (Action.andThen (plain Session.generateCode) _ k).2.body _
  rw [Action.andThen_pure_snd]
  exact plain_booked (fun _ => Session.generateCode_calm) hk

theorem change_performs {op : SessionOp} (hop : ∀ running, op.renders running = running)
    (htell : Tells tell) : Performs op (change tell op) := by
  intro l hl
  have hprompt : ∀ v, op ≠ .applyPrompt v := by
    rintro v rfl
    cases hop true
  refine andThen_booked (plain_booked (fun _ => Session.setter_calm hop) hl) fun result m h hm => ?_
  -- What is done as if the clock did not run leaves the clock alone.
  have hclock : m.clock = l.clock := (congrArg (fun done => done.2.clock) h).symm
  show ∃ ys, Booked m.body (Action.andThen (renderIfRunning tell) _ m).2.body ys ∧ _
  rw [Action.andThen_pure_snd, renderIfRunning_eq, hclock]
  by_cases hrunning : l.clock.isRunning = true
  · obtain ⟨told, hrendered⟩ := render_booked htell hm
    rw [if_pos hrunning]
    exact ⟨_, hrendered, fun _ => shown_fits ((hop _).trans hrunning) _ _⟩
  · rw [if_neg hrunning]
    refine ⟨[], .refl hm, fun _ => unshown_fits ?_ hprompt⟩
    exact (hop _).trans (Bool.eq_false_iff.2 hrunning)

theorem applyPrompt_performs (htell : Tells tell) (v : Value) :
    Performs (.applyPrompt v) (applyPrompt tell v) := by
  intro l hl
  refine andThen_booked (plain_booked (fun _ => .lift _) hl) fun pattern m hm hmfit => ?_
  have hpattern : suggest keywordTable fallbackPattern v = .ok pattern := congrArg Prod.fst hm
  have hmclock : m.clock = l.clock := (congrArg (fun done => done.2.clock) hm).symm
  refine andThen_booked (plain_booked (fun _ => .modify fun _ h => h) hmfit) fun _ k hk hkfit => ?_
  have hkclock : k.clock = l.clock := (congrArg (fun done => done.2.clock) hk).symm.trans hmclock
  have hchange : Performs (.setPattern (.id pattern)) (change tell (.setPattern (.id pattern))) :=
    change_performs (fun _ => rfl) htell
  obtain ⟨first, hselected⟩ := operation_booked hchange hkfit
  refine andThen_booked hselected fun _ j hj hjfit => ?_
  obtain ⟨second, hplayed⟩ := operation_booked (play_performs htell) hjfit
  refine andThen_booked hplayed fun _ i hi hifit => ⟨[], .refl hifit, fun _ => ?_⟩
  refine ⟨pattern, j.clock.isRunning, first, second, hpattern, ?_⟩
  rw [hj, hi, hkclock]
  rfl

/-- **What one operation enters**, whatever the listeners do. -/
theorem perform_booked (htell : Tells tell) (op : SessionOp) : Performs op (perform tell op) := by
  cases op with
  | reset => exact reset_performs htell
  | step => exact step_performs htell
  | render => exact render_performs htell
  | play => exact play_performs htell
  | setLedCount v => exact change_performs (fun _ => rfl) htell
  | setPattern ref => exact change_performs (fun _ => rfl) htell
  | setBrightness v => exact change_performs (fun _ => rfl) htell
  | applyPrompt v => exact applyPrompt_performs htell v
  | start => exact plain_performs (fun _ => rfl) nofun
  | stop => exact plain_performs (fun _ => rfl) nofun
  | generateCode => exact plain_performs (fun _ => rfl) nofun
  | setSpeed v => exact plain_performs (fun _ => rfl) nofun
  | subscribe id manner => exact plain_performs (fun _ => rfl) nofun
  | unsubscribe id manner => exact plain_performs (fun _ => rfl) nofun

/-! ## Listeners -/

namespace Tells

theorem pure (b : β) : Tells (Pure.pure b : Move β) := fun _ hl =>
  ⟨[], .refl hl, List.forall_mem_nil _⟩

theorem fail (f : Fault) : Tells (Action.fail f : Move β) := fun _ hl =>
  ⟨[], .refl hl, List.forall_mem_nil _⟩

theorem plain {a : SessionAction β} (h : ∀ stream, Keeps (Calm stream) a) :
    Tells (Ledger.plain a) := fun _ hl => ⟨[], plain_booked h hl, List.forall_mem_nil _⟩

theorem operation {op : SessionOp} {a : Move SessionResult} (ha : Performs op a) :
    Tells (Ledger.operation op a) := by
  intro l hl
  obtain ⟨parts, h⟩ := operation_booked ha hl
  exact ⟨_, h, List.forall_mem_singleton.2 trivial⟩

theorem bind {γ : Type} {a : Move β} {next : β → Move γ} (ha : Tells a)
    (hnext : ∀ b, Tells (next b)) : Tells (a >>= next) := by
  intro l hl
  obtain ⟨xs, hfirst, hxs⟩ := ha l hl
  refine bind_booked (P := fun _ told => ∀ d ∈ told, d.IsOperation) hfirst (fun _ => hxs)
    fun b m _ hm => ?_
  obtain ⟨ys, hsecond, hys⟩ := hnext b m hm
  exact ⟨ys, hsecond, List.forall_mem_append.2 ⟨hxs, hys⟩⟩

theorem attempt {a : Move β} (ha : Tells a) : Tells a.attempt := ha

theorem performAll (htell : Tells tell) (ops : List SessionOp) :
    Tells (Ledger.performAll tell ops) := by
  induction ops with
  | nil => exact .pure ()
  | cons op rest ih => exact (operation (perform_booked htell op)).bind fun _ => ih

theorem call (htell : Tells tell) (id : String) : Tells (Ledger.call tell id) := by
  refine (plain (a := Session.hear id) fun _ => .modify fun _ h => h).bind fun _ =>
    (plain (a := Action.get) fun _ _ h => h).bind fun s => ?_
  cases s.body.mannerOf id with
  | listen => exact .pure ()
  | fail => exact .fail _
  | act frame ops =>
    dsimp only
    split
    · have hretire : Tells (Ledger.plain (Session.modify (Session.retire id))) :=
        plain fun _ => Session.modify_calm (fun _ => rfl) fun _ => rfl
      exact hretire.bind fun _ => performAll htell ops
    · exact .pure ()

theorem serve (htell : Tells tell) (ids : List String) : Tells (Ledger.serve tell ids) := by
  induction ids with
  | nil => exact .pure ()
  | cons id rest ih =>
    refine (call htell id).attempt.bind fun result => ?_
    cases result with
    | ok _ => exact ih
    | error f => exact (plain (a := Timed.note _) fun _ => .modify fun _ h => h).bind fun _ => ih

theorem notifyAll (fuel : Nat) : Tells (Ledger.notifyAll fuel) := by
  induction fuel with
  | zero => exact (plain fun _ _ h => h).bind fun b => serve (.pure ()) b.subscribers
  | succ fuel ih => exact (plain fun _ _ h => h).bind fun b => serve ih b.subscribers

end Tells

/-! ## Steps -/

theorem run_booked (op : SessionOp) (hl : l.body.session.Fit) : ∃ parts,
    Booked l.body (run l op).body
      [.operation op l.clock.isRunning ((forget l).step (.op op)).1.isOk parts] := by
  let fuel := l.body.session.actors + op.actors
  obtain ⟨parts, h⟩ := operation_booked (perform_booked (Tells.notifyAll fuel) op) hl
  have houtcome : (operation op (perform (notifyAll fuel) op) l).1 =
      (op.perform (Session.notifyAll fuel) (forget l)).1 :=
    (operation_agree (perform_agree (notifyAll_agree fuel) op) l (forget l) rfl).1
  rw [houtcome] at h
  exact ⟨parts, h⟩

/-- A tick that falls due renders once. -/
theorem fire_booked (htell : Tells tell) (ticks : Nat) (hl : l.body.session.Fit) : ∃ s told,
    Booked l.body (fire (render tell) ticks l).body [.tick [.rendering s told]] := by
  obtain ⟨s, told, h⟩ := emit_booked htell (l := Timed.struck ticks (clean l)) hl
  have htick : Booked (clean l).body (Timed.fire (render tell) ticks (clean l)).body
      [.rendering s told] := by
    rw [Timed.fire_eq]
    exact h
  refine ⟨s, told, within_booked (fun _ parts => .tick parts) (fun _ _ => rfl)
    (a := Action.modify (Timed.fire (render tell) ticks)) rfl htick ⟨s, told, rfl⟩ ?_⟩
  rw [Deed.renderings_singleton]
  exact htick.chain

theorem advance_booked (htell : Tells tell) (ms : Nat) (hl : l.body.session.Fit) : ∃ made,
    Booked l.body (advance (render tell) ms l).body made ∧ ∀ d ∈ made, d.IsTick := by
  fun_induction advance (render tell) ms l with
  | case1 ms l left pos ticks hc hle ih =>
    obtain ⟨s, told, hfire⟩ := fire_booked htell ticks hl
    obtain ⟨made, hmade, hticks⟩ := ih hfire.fit
    exact ⟨_, hfire.trans hmade, List.forall_mem_cons.2 ⟨trivial, hticks⟩⟩
  | case2 ms l left pos ticks hc hlt => exact ⟨[], .refl hl, List.forall_mem_nil _⟩
  | case3 ms l hc => exact ⟨[], .refl hl, List.forall_mem_nil _⟩

/-- The deeds are the ones of the steps, one after the other: of an operation the operation, with
what it returned, and of time that passes the ticks that fall due. -/
def Follows (s : SessionState) : List SessionStep → List Deed → Prop
  | [], deeds => deeds = []
  | .op op :: rest, deeds => ∃ parts more,
      deeds = .operation op s.clock.isRunning (s.step (.op op)).1.isOk parts :: more ∧
      Follows (s.step (.op op)).2 rest more
  | .elapse ms :: rest, deeds => ∃ ticks more, deeds = ticks ++ more ∧ (∀ d ∈ ticks, d.IsTick) ∧
      Follows (s.step (.elapse ms)).2 rest more

/-- **What steps enter.** -/
theorem steps_booked (todo : List SessionStep) (hl : l.body.session.Fit) : ∃ deeds,
    Booked l.body (steps l todo).body deeds ∧ Follows (forget l) todo deeds := by
  induction todo generalizing l with
  | nil => exact ⟨[], .refl hl, rfl⟩
  | cons first rest ih =>
    cases first with
    | op op =>
      obtain ⟨parts, hrun⟩ := run_booked op hl
      obtain ⟨deeds, hrest, hfollows⟩ := ih (l := run l op) hrun.fit
      refine ⟨_, hrun.trans hrest, parts, deeds, rfl, ?_⟩
      rw [step_forget]
      exact hfollows
    | elapse ms =>
      obtain ⟨ticks, hadvance, hticks⟩ :=
        advance_booked (Tells.notifyAll (l.body.session.actors + 0)) ms hl
      obtain ⟨deeds, hrest, hfollows⟩ := ih (l := step l (.elapse ms)) hadvance.fit
      refine ⟨_, hadvance.trans hrest, ticks, deeds, rfl, hticks, ?_⟩
      rw [step_forget]
      exact hfollows

/-- **Every random number is accounted for.** Take a session of clamped settings and random numbers
from zero up to one, and let it go through any steps, with a ledger beside it.

* The ledger changes nothing, and its deeds are the ones of the steps.
* Each deed is in order: an operation that returns renders as often as it is to, a tick renders
  once, and a rendering makes the LEDs of the numbers it is to read.
* A rendering reads from behind all that the renderings before it read, and nothing else reads
  any. -/
theorem renderings_accounted {count brightness speed : Value} {setup : SessionSetup}
    {s : SessionState} (hconfig : StripConfig.clamped count brightness speed = .ok setup.config)
    (hsamples : ∀ k, (setup.stream.sample k).IsUnit) (hs : setup.create = .ok s)
    (todo : List SessionStep) :
    let l := steps (opened s) todo
    forget l = s.steps todo ∧ Follows s todo l.body.deeds ∧
    (∀ d ∈ Deed.allOf l.body.deeds, d.Accounted) ∧
    (∀ before r after, renderings l.body.deeds = before ++ r :: after →
      r.body.stream = setup.stream.skip (before.map (·.spends)).sum) ∧
    (s.steps todo).body.stream =
      setup.stream.skip ((renderings l.body.deeds).map (·.spends)).sum := by
  intro l
  obtain ⟨leds, clock, -, -, hmade⟩ := SessionSetup.create_ok hs
  have hstream : s.body.stream = setup.stream := by rw [hmade]
  have hfit : s.body.Fit :=
    { config := by
        obtain ⟨n, b, k, hn, hb, -, hranged⟩ := StripConfig.clamped_ok hconfig
        obtain ⟨hlow, hhigh⟩ := clampBrightness_range hb
        exact ⟨n, b, k, clampLedCount_pos hn, hlow, hhigh, by rw [hmade, hranged]⟩
      samples := by rwa [hstream] }
  obtain ⟨deeds, hbooked, hfollows⟩ := steps_booked (l := opened s) todo hfit
  obtain rfl : l.body.deeds = deeds := hbooked.deeds.trans (List.nil_append _)
  have hforget : s.steps todo = forget l := forget_steps (opened s) todo
  have hchain : Chain setup.stream (renderings l.body.deeds) (s.steps todo).body.stream := by
    rw [← hstream, hforget]
    exact hbooked.chain
  refine ⟨hforget.symm, hfollows, hbooked.accounted, fun before r after hsplit => ?_, hchain.last⟩
  rw [hsplit] at hchain
  exact hchain.stream

/-- Two LEDs of a fire. -/
def twoBurning : SessionSetup where
  config := ⟨.int 2, .int 10, .int 97⟩
  pattern := .id .fire
  stream := .cycle #[.finite (1 / 4), .finite (1 / 2), .finite (3 / 4)]

/-- A listener selects another pattern when it is told of frame one. -/
def burningSteps : List SessionStep :=
  [.op (.subscribe "view" (.act (some 1) [.setPattern (.id .sparkle)])), .op .start, .op .step,
    .elapse 4, .op (.setLedCount (.int 3)), .op .stop, .op (.setBrightness (.int 50))]

theorem twoBurning_isUnit (k : Nat) : (twoBurning.stream.sample k).IsUnit := by
  have hcases : k % 3 = 0 ∨ k % 3 = 1 ∨ k % 3 = 2 := by omega
  show (#[Double.finite (1 / 4), .finite (1 / 2), .finite (3 / 4)][k % 3]?.getD _).IsUnit
  rcases hcases with h | h | h <;> rw [h] <;> exact ⟨_, rfl, by decide +kernel, by decide +kernel⟩

/-- The step renders the fire and, as the listener selects another pattern, that one; the tick
renders, and so does the setter while the clock runs. -/
theorem renderings_accounted_burning : ∃ s, twoBurning.create = .ok s ∧
    let l := steps (opened s) burningSteps
    Follows s burningSteps l.body.deeds ∧ (∀ d ∈ Deed.allOf l.body.deeds, d.Accounted) ∧
    (renderings l.body.deeds).map (·.spends) = [2, 2, 2, 3] ∧
    (∀ before r after, renderings l.body.deeds = before ++ r :: after →
      r.body.stream = twoBurning.stream.skip (before.map (·.spends)).sum) ∧
    (s.steps burningSteps).body.stream = twoBurning.stream.skip 9 := by
  refine ⟨_, rfl, ?_⟩
  intro l
  have hspends : (renderings l.body.deeds).map (·.spends) = [2, 2, 2, 3] := by decide +kernel
  have hconfig : StripConfig.clamped (.int 2) (.int 10) (.int 97) = .ok twoBurning.config := rfl
  obtain ⟨-, hfollows, haccounted, hstreams, hlast⟩ :=
    renderings_accounted hconfig twoBurning_isUnit rfl burningSteps
  rw [hspends] at hlast
  exact ⟨hfollows, haccounted, hspends, hstreams, hlast⟩

end Ledger
end LedStudio
