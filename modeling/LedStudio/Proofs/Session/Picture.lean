import LedStudio.Proofs.Pattern.Frame
import LedStudio.Proofs.Session.Basic
import LedStudio.Proofs.Strip

/-!
# The picture is never stale

The LEDs are computed from the pattern, the number of LEDs, the frame and the brightness, and only
when a session renders. A session is fresh if they are what would be computed now.

* `picture_never_stale` — a running session stays fresh, and whatever renders makes it fresh.
-/

namespace LedStudio

/-- The LEDs are the picture of what the session holds. -/
def SessionState.Fresh (s : SessionState) : Prop := s.picture.leds = .ok s.body.leds

/-- The last picture that was asked for on the way from `s` to `t` could not be computed: it was the
one of what `t` holds, and the clock, which asked for it, has logged an error. -/
structure SessionState.LastFailed (s t : SessionState) : Prop where
  failed : ∃ f, t.picture.leds = .error f
  logged : ∃ r ∈ t.log.drop s.log.length, r.category = .clock ∧ r.level = .error

/-- The operations that render whether the clock runs or not. -/
def SessionOp.Renders : SessionOp → Prop
  | .render | .step | .reset | .play | .applyPrompt _ => True
  | _ => False

/-- The step renders: it is such an operation, or as much time as leads to the next tick. -/
def SessionStep.Renders (s : SessionState) : SessionStep → Prop
  | .op todo => todo.Renders
  | .elapse ms => ∃ left, s.clock.cadence.due? = some left ∧ left ≤ ms

/-! ## Listeners that only listen -/

namespace Session

/-- Telling the listeners leaves no more than what they heard and what is logged of them. -/
def Harmless (notify : SessionAction Unit) : Prop :=
  ∀ s : SessionState, s.body.actors = 0 → ∃ log heard,
    notify s = (.ok (), { s with log := s.log ++ log, body := { s.body with heard } }) ∧
      ∀ r ∈ log, r.category = .session

theorem actors_eq_zero {b : Session} (h : b.actors = 0) {entry : String × Manner}
    (hentry : entry ∈ b.listeners) : entry.2.actors = 0 := by
  unfold actors at h
  generalize b.listeners = entries at h hentry
  induction entries with
  | nil => cases hentry
  | cons first rest ih =>
    simp only [List.foldr_cons] at h
    rcases List.mem_cons.mp hentry with rfl | hrest
    · omega
    · exact ih (by omega) hrest

theorem not_acting {b : Session} (h : b.actors = 0) {id : String} {frame : Option Int}
    {ops : List SessionOp} : b.mannerOf id ≠ .act frame ops := by
  intro hact
  unfold mannerOf at hact
  cases hfound : b.listeners.find? (·.1 = id) with
  | none =>
    rw [hfound] at hact
    cases hact
  | some entry =>
    rw [hfound] at hact
    have hnone := actors_eq_zero h (List.mem_of_find?_eq_some hfound)
    simp only [Option.map_some, Option.getD_some] at hact
    rw [hact] at hnone
    simp only [Manner.actors] at hnone
    omega

theorem notifyAll_harmless (fuel : Nat) : Harmless (notifyAll fuel) := by
  intro s h
  refine notifyAll_idle fuel fun id _ => ?_
  rintro ⟨frame, ops, hact, -⟩
  exact not_acting h hact

end Session

/-! ## From one session to the next -/

namespace SessionState

variable {s t u : SessionState}

theorem picture_eq (hpattern : t.body.pattern = s.body.pattern)
    (hcount : t.body.config.ledCount = s.body.config.ledCount)
    (hbrightness : t.body.config.brightness = s.body.config.brightness)
    (hframe : t.clock.frame = s.clock.frame) (hstream : t.body.stream = s.body.stream) :
    t.picture = s.picture := by
  unfold picture
  rw [hpattern, hcount, hbrightness, hframe, hstream]

/-- A session with the same picture and the same LEDs is fresh if the other one is. -/
theorem Fresh.of_eq (h : s.Fresh) (hpicture : t.picture = s.picture)
    (hleds : t.body.leds = s.body.leds) : t.Fresh := by
  unfold Fresh
  rw [hpicture, hleds]
  exact h

theorem settle_picture (s : SessionState) : picture (Timed.settle s) = s.picture :=
  picture_eq rfl rfl rfl s.clock.alike_settled.frame rfl

/-- The session is fresh unless the last picture failed. -/
def UpToDate (s t : SessionState) : Prop := t.Fresh ∨ s.LastFailed t

theorem UpToDate.earlier (h : UpToDate t u) (hlog : s.log <+: t.log) : UpToDate s u := by
  refine h.imp_right fun hlast => ⟨hlast.failed, ?_⟩
  obtain ⟨r, hr, herror⟩ := hlast.logged
  refine ⟨r, ?_, herror⟩
  have hle := hlog.length_le
  rw [← Nat.add_sub_of_le hle, ← List.drop_drop] at hr
  exact List.mem_of_mem_drop hr

/-- What neither changes the picture nor the LEDs leaves the session up to date. -/
theorem UpToDate.of_eq (h : UpToDate s t) (hpicture : u.picture = t.picture)
    (hleds : u.body.leds = t.body.leds) (hlog : t.log <+: u.log) : UpToDate s u := by
  rcases h with hfresh | ⟨hfailed, r, hr, herror⟩
  · exact .inl (hfresh.of_eq hpicture hleds)
  · refine .inr ⟨hpicture ▸ hfailed, r, ?_, herror⟩
    obtain ⟨more, hmore⟩ := hlog
    rw [← hmore, List.drop_append]
    exact List.mem_append_left _ hr

theorem UpToDate.settle (h : UpToDate s t) : UpToDate s (Timed.settle t) :=
  h.of_eq t.settle_picture rfl (List.prefix_append _ _)

/-- The second session comes after the first one, with the same pattern and the same listeners. -/
structure Onward (s t : SessionState) : Prop where
  pattern : t.body.pattern = s.body.pattern
  listeners : t.body.listeners = s.body.listeners
  log : s.log <+: t.log

theorem Onward.trans (h : Onward s t) (h' : Onward t u) : Onward s u :=
  ⟨h'.pattern.trans h.pattern, h'.listeners.trans h.listeners, h.log.trans h'.log⟩

theorem Onward.actors (h : Onward s t) : t.body.actors = s.body.actors := by
  unfold Session.actors
  rw [h.listeners]

end SessionState

/-! ## Rendering -/

namespace Session

open SessionState (Fresh UpToDate Onward)

variable {notify : SessionAction Unit} {s t : SessionState}

theorem render_error {f : Fault} (hleds : s.picture.leds = .error f) :
    render notify s = (.error f, s.spent) := by
  rw [render_eq, hleds]

theorem render_ok (hnotify : Harmless notify) (h : s.body.actors = 0) {leds : List Color}
    (hleds : s.picture.leds = .ok leds) : ∃ log heard,
    render notify s = (.ok (), { s.spent with
      log := s.spent.log ++ log, body := { s.spent.body with leds, heard } }) ∧
    ∀ r ∈ log, r.category = .session := by
  rw [render_eq, hleds]
  exact hnotify { s.spent with body := { s.spent.body with leds } } h

theorem render_onward (hnotify : Harmless notify) (h : s.body.actors = 0) :
    Onward s (render notify s).2 := by
  cases hleds : s.picture.leds with
  | error f =>
    rw [render_error hleds]
    exact ⟨rfl, rfl, List.prefix_append _ _⟩
  | ok leds =>
    obtain ⟨log, heard, hrender, -⟩ := render_ok hnotify h hleds
    rw [hrender]
    exact ⟨rfl, rfl, (List.prefix_append _ _).trans (List.prefix_append _ _)⟩

/-- A rendering that succeeds leaves the session fresh. -/
theorem render_fresh (hnotify : Harmless notify) (h : s.body.actors = 0)
    (hrender : render notify s = (.ok (), t)) (hdet : t.body.pattern.isDeterministic = true) :
    t.Fresh := by
  cases hleds : s.picture.leds with
  | error f =>
    rw [render_error hleds] at hrender
    cases hrender
  | ok leds =>
    obtain ⟨log, heard, heq, -⟩ := render_ok hnotify h hleds
    cases heq.symm.trans hrender
    unfold Fresh
    rw [← hleds]
    exact computeFrame_leds_eq hdet _ _ _ _ _

theorem emit_onward (hnotify : Harmless notify) (h : s.body.actors = 0) :
    Onward s (Timed.emit (render notify) s).2 := by
  have honward := render_onward hnotify h
  unfold Timed.emit
  rcases hr : render notify s with ⟨f | _, t⟩
  · rw [hr] at honward
    exact { honward with log := honward.log.trans (List.prefix_append _ _) }
  · rwa [hr] at honward

theorem emit_error (notify : SessionAction Unit) {f : Fault}
    (hleds : s.picture.leds = .error f) : ∃ message,
    (Timed.emit (render notify) s).2 =
      { s.spent with log := s.spent.log ++ [⟨.clock, .error, message, []⟩] } := by
  unfold Timed.emit
  rw [render_error hleds]
  exact ⟨_, rfl⟩

/-- The clock logs an error just where it asked for a picture that cannot be computed. -/
theorem emit_logs_iff (hnotify : Harmless notify) (h : s.body.actors = 0) :
    (∃ r ∈ (Timed.emit (render notify) s).2.log.drop s.log.length,
      r.category = .clock ∧ r.level = .error) ↔ ∃ f, s.picture.leds = .error f := by
  cases hleds : s.picture.leds with
  | error f =>
    obtain ⟨message, hemit⟩ := emit_error notify hleds
    refine ⟨fun _ => ⟨f, rfl⟩, fun _ => ⟨⟨.clock, .error, message, []⟩, ?_, rfl, rfl⟩⟩
    rw [hemit]
    simp only [SessionState.spent, List.append_assoc, List.drop_left]
    exact List.mem_append_right _ (List.mem_singleton.mpr rfl)
  | ok leds =>
    obtain ⟨log, heard, hrender, hsession⟩ := render_ok hnotify h hleds
    constructor
    · rintro ⟨r, hr, hclock, -⟩
      unfold Timed.emit at hr
      simp only [hrender, SessionState.spent, List.append_assoc, List.drop_left,
        List.mem_append] at hr
      rcases hr with hpicture | hlog
      · have hpattern := computeFrame_log_category _ _ _ _ _ r hpicture
        rw [hclock] at hpattern
        cases hpattern
      · have hlistener := hsession r hlog
        rw [hclock] at hlistener
        cases hlistener
    · rintro ⟨f, hf⟩
      cases hf

theorem emit_upToDate (hnotify : Harmless notify) (h : s.body.actors = 0)
    (hdet : s.body.pattern.isDeterministic = true) :
    UpToDate s (Timed.emit (render notify) s).2 := by
  cases hleds : s.picture.leds with
  | error f =>
    obtain ⟨message, hemit⟩ := emit_error notify hleds
    have hlogged := (emit_logs_iff hnotify h).mpr ⟨f, hleds⟩
    refine .inr ⟨⟨f, ?_⟩, hlogged⟩
    rw [hemit, ← hleds]
    exact computeFrame_leds_eq hdet _ _ _ _ _
  | ok leds =>
    obtain ⟨log, heard, hrender, -⟩ := render_ok hnotify h hleds
    have hfresh := render_fresh hnotify h hrender hdet
    unfold Timed.emit
    rw [hrender]
    exact .inl hfresh

theorem renderIfRunning_onward (hnotify : Harmless notify) (h : s.body.actors = 0) :
    Onward s (renderIfRunning notify s).2 := by
  rw [renderIfRunning_eq]
  split
  · exact render_onward hnotify h
  · exact ⟨rfl, rfl, List.prefix_rfl⟩

theorem renderIfRunning_fresh (hnotify : Harmless notify) (h : s.body.actors = 0)
    (hrun : s.clock.isRunning = true) (hrender : renderIfRunning notify s = (.ok (), t))
    (hdet : t.body.pattern.isDeterministic = true) : t.Fresh := by
  rw [renderIfRunning_eq, if_pos hrun] at hrender
  exact render_fresh hnotify h hrender hdet

/-! ## Operations -/

theorem start_fresh (h : s.Fresh) : Fresh (Timed.start s).2 := by
  obtain ⟨log, hstart⟩ := Timed.start_state s
  rw [hstart]
  exact h.of_eq (SessionState.picture_eq rfl rfl rfl s.clock.alike_start.frame rfl) rfl

theorem stop_fresh (h : s.Fresh) : Fresh (Timed.stop s).2 := by
  obtain ⟨log, hstop⟩ := Timed.stop_state s
  rw [hstop]
  exact h.of_eq (SessionState.picture_eq rfl rfl rfl s.clock.alike_stop.frame rfl) rfl

theorem setLedCount_fresh (hnotify : Harmless notify) (h : s.body.actors = 0)
    (hrun : s.clock.isRunning = true) {v : Value} (hset : setLedCount notify v s = (.ok (), t))
    (hdet : t.body.pattern.isDeterministic = true) : t.Fresh := by
  rw [setLedCount_eq] at hset
  cases hconfig : s.body.config.withLedCount v with
  | error f =>
    rw [hconfig] at hset
    cases hset
  | ok config =>
    simp only [hconfig] at hset
    cases hleds : blankLeds config.ledCount with
    | error f =>
      rw [hleds] at hset
      cases hset
    | ok leds =>
      simp only [hleds] at hset
      refine renderIfRunning_fresh hnotify ?_ ?_ hset hdet
      · exact h
      · exact hrun

theorem setPattern_fresh (hnotify : Harmless notify) (h : s.body.actors = 0)
    (hrun : s.clock.isRunning = true) {ref : PatternRef}
    (hset : setPattern notify ref s = (.ok (), t))
    (hdet : t.body.pattern.isDeterministic = true) : t.Fresh := by
  obtain ⟨log, heq⟩ := setPattern_eq notify s ref
  rw [heq] at hset
  refine renderIfRunning_fresh hnotify ?_ ?_ hset hdet
  · exact h
  · exact hrun

theorem setBrightness_fresh (hnotify : Harmless notify) (h : s.body.actors = 0)
    (hrun : s.clock.isRunning = true) {v : Value} (hset : setBrightness notify v s = (.ok (), t))
    (hdet : t.body.pattern.isDeterministic = true) : t.Fresh := by
  rw [setBrightness_eq] at hset
  cases hconfig : s.body.config.withBrightness v with
  | error f =>
    rw [hconfig] at hset
    cases hset
  | ok config =>
    simp only [hconfig] at hset
    refine renderIfRunning_fresh hnotify ?_ ?_ hset hdet
    · exact h
    · exact hrun

/-- The picture does not hang on the speed. -/
theorem setSpeed_fresh (h : s.Fresh) (v : Value) : Fresh (setSpeed v s).2 := by
  obtain ⟨log, hset⟩ := setSpeed_state s v
  rw [hset]
  cases hconfig : s.body.config.withSpeed v with
  | error f => exact h
  | ok config =>
    obtain ⟨k, -, rfl⟩ := StripConfig.withSpeed_ok hconfig
    exact h.of_eq (SessionState.picture_eq rfl rfl rfl (s.clock.after_frame rfl) rfl) rfl

theorem generateCode_fresh (h : s.Fresh) : Fresh (generateCode s).2 := by
  obtain ⟨log, code, hwritten⟩ := generateCode_state s
  rw [hwritten]
  exact h.of_eq rfl rfl

theorem subscribe_fresh (h : s.Fresh) (id : String) (manner : Manner) :
    Fresh (subscribe id manner s).2 := by
  obtain ⟨listeners, hintroduce⟩ := introduce_eq s.body id manner
  simp only [subscribe, modify, Action.modify, hintroduce]
  exact h.of_eq rfl rfl

theorem unsubscribe_fresh (h : s.Fresh) (id : String) (manner : Manner) :
    Fresh (unsubscribe id manner s).2 := by
  obtain ⟨listeners, hintroduce⟩ := introduce_eq s.body id manner
  simp only [unsubscribe, modify, Action.modify, hintroduce]
  exact h.of_eq rfl rfl

theorem play_fresh (hnotify : Harmless notify) (h : s.body.actors = 0) {code : String}
    (hplay : play notify s = (.ok code, t)) (hdet : t.body.pattern.isDeterministic = true) :
    t.Fresh := by
  obtain ⟨_, u, hstart, hplay⟩ := Action.andThen_eq_ok hplay
  obtain ⟨_, v, hrender, hcode⟩ := Action.andThen_eq_ok hplay
  obtain ⟨log, hu⟩ := Timed.start_state s
  rw [hstart] at hu
  obtain ⟨more, written, ht⟩ := generateCode_state v
  rw [hcode] at ht
  have hactors : u.body.actors = 0 := (congrArg (·.body.actors) hu).trans h
  have hpattern : t.body.pattern = v.body.pattern := congrArg (·.body.pattern) ht
  have hv := generateCode_fresh (render_fresh hnotify hactors hrender (hpattern ▸ hdet))
  rwa [hcode] at hv

theorem setPattern_actors (hnotify : Harmless notify) (h : s.body.actors = 0) (ref : PatternRef) :
    (setPattern notify ref s).2.body.actors = 0 := by
  obtain ⟨log, hset⟩ := setPattern_eq notify s ref
  rw [hset]
  exact (renderIfRunning_onward (s := { s with
    log := s.log ++ log, body := { s.body with pattern := ref.normalize } }) hnotify h).actors.trans h

theorem applyPrompt_fresh (hnotify : Harmless notify) (h : s.body.actors = 0) {prompt : Value}
    {p : PatternId} (happly : applyPrompt notify prompt s = (.ok p, t))
    (hdet : t.body.pattern.isDeterministic = true) : t.Fresh := by
  obtain ⟨q, u, hsuggest, happly⟩ := Action.andThen_eq_ok happly
  obtain ⟨_, v, hinfo, happly⟩ := Action.andThen_eq_ok happly
  obtain ⟨_, w, hset, happly⟩ := Action.andThen_eq_ok happly
  obtain ⟨code, hplay⟩ := Action.andThen_pure_eq_ok happly
  have hu : u = s := (congrArg Prod.snd hsuggest).symm
  have hv : v.body = u.body := (congrArg (·.2.body) hinfo).symm
  have hactors := setPattern_actors hnotify (s := v) (by rw [hv, hu]; exact h) (.id q)
  rw [hset] at hactors
  exact play_fresh hnotify hactors hplay hdet

theorem poised_log (op : ClockOp) (s : SessionState) : s.log <+: (Timed.poised op s).log := by
  cases op with
  | reset => exact List.prefix_append _ _
  | _ => exact List.prefix_rfl

/-- After a reset or a tick. -/
theorem shows_upToDate (hnotify : Harmless notify) (h : s.body.actors = 0) (op : ClockOp)
    (hshown : (Timed.emit (render notify) (Timed.poised op s)).2 = t)
    (hdet : t.body.pattern.isDeterministic = true) : UpToDate s t := by
  have honward := emit_onward hnotify (s := Timed.poised op s) h
  have hdate := emit_upToDate hnotify (s := Timed.poised op s) h
  rw [hshown] at honward hdate
  exact (hdate (honward.pattern ▸ hdet)).earlier (poised_log op s)

/-- An operation that renders by itself leaves the session fresh, and so does any other that finds
the clock running and the session fresh. -/
theorem perform_upToDate (hnotify : Harmless notify) (h : s.body.actors = 0) {op : SessionOp}
    {result : SessionResult} (hop : op.perform notify s = (.ok result, t))
    (hdet : t.body.pattern.isDeterministic = true)
    (hcase : op.Renders ∨ s.clock.isRunning = true ∧ s.Fresh) : UpToDate s t := by
  cases op with
  | reset =>
    obtain ⟨_, hreset⟩ := Action.andThen_pure_eq_ok hop
    exact shows_upToDate hnotify h .reset (congrArg Prod.snd hreset) hdet
  | step =>
    obtain ⟨_, htick⟩ := Action.andThen_pure_eq_ok hop
    rw [Timed.tick_eq] at htick
    exact shows_upToDate hnotify h .tick (congrArg Prod.snd htick) hdet
  | render =>
    obtain ⟨_, hrender⟩ := Action.andThen_pure_eq_ok hop
    exact .inl (render_fresh hnotify h hrender hdet)
  | play =>
    obtain ⟨code, hplay⟩ := Action.andThen_pure_eq_ok hop
    exact .inl (play_fresh hnotify h hplay hdet)
  | applyPrompt v =>
    obtain ⟨p, happly⟩ := Action.andThen_pure_eq_ok hop
    exact .inl (applyPrompt_fresh hnotify h happly hdet)
  | start =>
    obtain ⟨_, hstart⟩ := Action.andThen_pure_eq_ok hop
    have ht := start_fresh (hcase.resolve_left id).2
    rw [hstart] at ht
    exact .inl ht
  | stop =>
    obtain ⟨_, hstop⟩ := Action.andThen_pure_eq_ok hop
    have ht := stop_fresh (hcase.resolve_left id).2
    rw [hstop] at ht
    exact .inl ht
  | generateCode =>
    obtain ⟨_, hcode⟩ := Action.andThen_pure_eq_ok hop
    have ht := generateCode_fresh (hcase.resolve_left id).2
    rw [hcode] at ht
    exact .inl ht
  | setSpeed v =>
    obtain ⟨_, hset⟩ := Action.andThen_pure_eq_ok hop
    have ht := setSpeed_fresh (hcase.resolve_left id).2 v
    rw [hset] at ht
    exact .inl ht
  | setLedCount v =>
    obtain ⟨_, hset⟩ := Action.andThen_pure_eq_ok hop
    exact .inl (setLedCount_fresh hnotify h (hcase.resolve_left id).1 hset hdet)
  | setPattern ref =>
    obtain ⟨_, hset⟩ := Action.andThen_pure_eq_ok hop
    exact .inl (setPattern_fresh hnotify h (hcase.resolve_left id).1 hset hdet)
  | setBrightness v =>
    obtain ⟨_, hset⟩ := Action.andThen_pure_eq_ok hop
    exact .inl (setBrightness_fresh hnotify h (hcase.resolve_left id).1 hset hdet)
  | subscribe name manner =>
    have ht : (subscribe name manner s).2 = t := congrArg Prod.snd hop
    exact .inl (ht ▸ subscribe_fresh (hcase.resolve_left id).2 name manner)
  | unsubscribe name manner =>
    have ht : (unsubscribe name manner s).2 = t := congrArg Prod.snd hop
    exact .inl (ht ▸ unsubscribe_fresh (hcase.resolve_left id).2 name manner)

/-! ## Time -/

theorem fire_onward (hnotify : Harmless notify) (h : s.body.actors = 0) (ticks : Nat) :
    Onward s (Timed.fire (render notify) ticks s) := by
  have honward := emit_onward hnotify (s := Timed.struck ticks s) h
  rw [Timed.fire_eq]
  exact ⟨honward.pattern, honward.listeners, honward.log.trans (List.prefix_append _ _)⟩

theorem fire_upToDate (hnotify : Harmless notify) (h : s.body.actors = 0)
    (hdet : s.body.pattern.isDeterministic = true) (ticks : Nat) :
    UpToDate s (Timed.fire (render notify) ticks s) := by
  have hdate := emit_upToDate hnotify (s := Timed.struck ticks s) h hdet
  rw [Timed.fire_eq]
  generalize (Timed.emit (render notify) (Timed.struck ticks s)).2 = t at hdate
  have hresumed := hdate.of_eq (u := { t with clock := t.clock.resume ticks })
    (SessionState.picture_eq rfl rfl rfl (t.clock.alike_resume ticks).frame rfl) rfl List.prefix_rfl
  exact hresumed.settle.earlier List.prefix_rfl

theorem advance_onward (hnotify : Harmless notify) (ms : Nat) (h : s.body.actors = 0) :
    Onward s (Timed.advance (render notify) ms s) := by
  fun_induction Timed.advance (render notify) ms s with
  | case1 ms s left pos ticks hc hle ih =>
    have hfire := fire_onward hnotify h ticks
    exact hfire.trans (ih (hfire.actors.trans h))
  | case2 => exact ⟨rfl, rfl, List.prefix_rfl⟩
  | case3 => exact ⟨rfl, rfl, List.prefix_rfl⟩

/-- Each tick brings the session up to date, and between the ticks it stays so; `r` is the session
before the first of them. -/
theorem advance_upToDate (hnotify : Harmless notify) (ms : Nat) (h : s.body.actors = 0)
    (hdet : s.body.pattern.isDeterministic = true) {r : SessionState} (hlog : r.log <+: s.log)
    (hcase : (∃ left, s.clock.cadence.due? = some left ∧ left ≤ ms) ∨ UpToDate r s) :
    UpToDate r (Timed.advance (render notify) ms s) := by
  fun_induction Timed.advance (render notify) ms s with
  | case1 ms s left pos ticks hc hle ih =>
    have hfire := fire_onward hnotify h ticks
    have hdate := (fire_upToDate hnotify h hdet ticks).earlier hlog
    exact ih (hfire.actors.trans h) (hfire.pattern ▸ hdet) (hlog.trans hfire.log) (.inr hdate)
  | case2 ms s left pos ticks hc hlt =>
    rcases hcase with ⟨due, hdue, hdueLe⟩ | hdate
    · rw [hc] at hdue
      cases hdue
      exact absurd hdueLe hlt
    · exact hdate.of_eq rfl rfl List.prefix_rfl
  | case3 ms s hc =>
    rcases hcase with ⟨due, hdue, -⟩ | hdate
    · rw [Cadence.due?_eq_none hc] at hdue
      cases hdue
    · exact hdate

end Session

/-- **The picture is never stale.** Take any session whose listeners do not operate it, and a step
that succeeds and leaves a pattern selected that is not a random one. Unless the last picture that it
asked for could not be computed, two things hold. If the clock ran and the session was fresh before,
it is fresh afterwards, whatever the step was. And a rendering, a step of one frame, a reset, a play,
a prompt and any time in which a tick falls due leave it fresh whatever it was before. -/
theorem picture_never_stale {s t : SessionState} (h : s.body.actors = 0) {todo : SessionStep}
    {result : SessionResult} (hstep : s.step todo = (.ok result, t))
    (hdet : t.body.pattern.isDeterministic = true) (hcalls : ¬s.LastFailed t) :
    (s.clock.isRunning = true → s.Fresh → t.Fresh) ∧ (todo.Renders s → t.Fresh) := by
  have hstepped : todo.Renders s ∨ s.clock.isRunning = true ∧ s.Fresh → s.UpToDate t := by
    intro hcase
    cases todo with
    | op op =>
      rcases hop : op.perform (s.notify op.actors) s with ⟨outcome, u⟩
      have hrun : s.run op = (outcome, Timed.settle u) := by
        simp only [SessionState.run, SessionState.perform, hop]
      cases hrun.symm.trans hstep
      have hdate := Session.perform_upToDate (Session.notifyAll_harmless _) h hop hdet hcase
      exact hdate.settle
    | elapse ms =>
      have helapse : s.elapse ms = t := congrArg Prod.snd hstep
      subst helapse
      have hnotify := Session.notifyAll_harmless (s.body.actors + 0)
      have honward := Session.advance_onward hnotify ms h
      exact Session.advance_upToDate hnotify ms h (honward.pattern ▸ hdet) List.prefix_rfl
        (hcase.imp_right fun hrunning => .inl hrunning.2)
  exact ⟨fun hrun hfresh => (hstepped (.inr ⟨hrun, hfresh⟩)).resolve_right hcalls,
    fun hrenders => (hstepped (.inl hrenders)).resolve_right hcalls⟩

/-- A running session with two LEDs that are still black. -/
def strobing : SessionState where
  clock := ⟨97, 1, Nat.one_pos, 0, .asleep 3 (by decide) 0, [], true⟩
  log := []
  body :=
    { config := ⟨.int 2, .int 10, .int 97⟩, pattern := .id .strobe, wiring := {},
      stream := .cycle #[], leds := [Color.black, Color.black] }

/-- A tick, and then another brightness while the clock runs. -/
theorem picture_never_stale_strobing :
    let t := (strobing.step (.elapse 5)).2
    let u := (t.step (.op (.setBrightness (.int 50)))).2
    strobing.body.actors = 0 ∧ t.Fresh ∧ t.clock.isRunning = true ∧ u.Fresh ∧
      t.body.leds ≠ u.body.leds := by
  intro t u
  have hquiet : strobing.body.actors = 0 := by decide +kernel
  have htPicture : t.picture.leds.isOk = true := by decide +kernel
  have huPicture : u.picture.leds.isOk = true := by decide +kernel
  have hcalls {r s : SessionState} (hs : s.picture.leds.isOk = true) : ¬r.LastFailed s := by
    rintro ⟨⟨f, hf⟩, -⟩
    rw [hf] at hs
    cases hs
  have hticked : strobing.step (.elapse 5) = (.ok .nothing, t) := rfl
  have ht : t.Fresh :=
    (picture_never_stale hquiet hticked (by decide +kernel) (hcalls htPicture)).2
      ⟨3, rfl, by decide⟩
  have hrun : t.clock.isRunning = true := by decide +kernel
  have hok : (t.step (.op (.setBrightness (.int 50)))).1.isOk = true := by decide +kernel
  rcases hstep : t.step (.op (.setBrightness (.int 50))) with ⟨_ | result, v⟩
  · rw [hstep] at hok
    cases hok
  · have hv : v = u := (congrArg Prod.snd hstep).symm
    subst hv
    have hu : u.Fresh :=
      (picture_never_stale (by decide +kernel) hstep (by decide +kernel) (hcalls huPicture)).1
        hrun ht
    exact ⟨hquiet, ht, hrun, hu, by decide +kernel⟩

end LedStudio
