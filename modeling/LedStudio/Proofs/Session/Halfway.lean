import LedStudio.Proofs.Outcome
import LedStudio.Proofs.Session.Rewinding

/-!
# Commands that fail halfway

Playing and following a prompt are several steps, each of which can fail, and none is taken back
when a later one does. A play starts the clock, shows the picture and writes the sketch; a prompt
selects a pattern first. What such a command leaves when it fails is what its steps did until then.

* `play_stops`, `prompt_stops` — where a command stops, and what it leaves there.
* `failed_commands_keep` — what it cannot have changed, unless a listener did.
-/

namespace LedStudio
namespace SessionState

/-- The session once its clock is started, if it can be. -/
def started (s : SessionState) : SessionState := (Timed.start s).2

/-- The session with the colours of a picture, of which nobody is told yet. -/
def showing (s : SessionState) (leds : List Color) : SessionState :=
  { s.spent with body := { s.spent.body with leds } }

/-- Where a play stops that fails, and what it leaves there. -/
inductive PlayStops (notify : SessionAction Unit) (s : SessionState) (f : Fault) :
    SessionState → Prop where
  /-- There is no event loop to start the clock on. -/
  | start : s.clock.isRunning = false → s.clock.hasLoop = false → f = .noEventLoop →
      PlayStops notify s f s
  /-- The clock runs, and there is no picture. -/
  | picture : (Timed.start s).1 = .ok () → s.started.picture.leds = .error f →
      PlayStops notify s f s.started.spent
  /-- The picture is shown, and there is no sketch. -/
  | sketch {leds : List Color} : (Timed.start s).1 = .ok () → s.started.picture.leds = .ok leds →
      (Session.generateCode (notify (s.started.showing leds)).2).1 = .error f →
      PlayStops notify s f (notify (s.started.showing leds)).2

/-- The session once the pattern for a prompt is selected and logged. -/
def selecting (s : SessionState) (p : PatternId) (log : Log) : SessionState :=
  { s with log := s.log ++ log, body := { s.body with pattern := .id p } }

/-- Where a prompt stops that fails, and what it leaves there. -/
inductive PromptStops (notify : SessionAction Unit) (s : SessionState) (prompt : Value)
    (f : Fault) : SessionState → Prop where
  /-- The prompt suggests nothing. -/
  | prompt : suggest keywordTable fallbackPattern prompt = .error f →
      PromptStops notify s prompt f s
  /-- The clock runs, and there is no picture of the suggested pattern. -/
  | picture {p : PatternId} {log : Log} :
      suggest keywordTable fallbackPattern prompt = .ok p → s.clock.isRunning = true →
      (s.selecting p log).picture.leds = .error f →
      PromptStops notify s prompt f (s.selecting p log).spent
  /-- The suggested pattern is shown if the clock runs, and cannot be played. -/
  | play {p : PatternId} {log : Log} {t u : SessionState} :
      suggest keywordTable fallbackPattern prompt = .ok p →
      Session.renderIfRunning notify (s.selecting p log) = (.ok (), t) →
      PlayStops notify t f u → PromptStops notify s prompt f u

section

variable {notify : SessionAction Unit} {s t : SessionState} {f : Fault}

theorem start_stops (h : Timed.start s = (.error f, t)) :
    s.clock.isRunning = false ∧ s.clock.hasLoop = false ∧ f = .noEventLoop ∧ t = s := by
  simp only [Timed.start, bind, Action.andThen, Timed.getClock, pure] at h
  cases hr : s.clock.isRunning with
  | true => simp [hr] at h
  | false =>
    cases hl : s.clock.hasLoop with
    | true => simp [hr, hl, Timed.setClock, Timed.note, Action.andThen, Action.modify] at h
    | false =>
      simp [hr, hl, Action.fail, Action.andThen] at h
      exact ⟨rfl, rfl, h.1.symm, h.2.symm⟩

theorem render_stops (hnotify : ∀ t, (notify t).1 = .ok ())
    (h : Session.render notify s = (.error f, t)) : s.picture.leds = .error f ∧ t = s.spent := by
  rw [Session.render_eq] at h
  cases hleds : s.picture.leds with
  | error g =>
    rw [hleds] at h
    cases h
    exact ⟨rfl, rfl⟩
  | ok leds =>
    rw [hleds] at h
    have htold := hnotify (s.showing leds)
    rw [show notify (s.showing leds) = (.error f, t) from h] at htold
    cases htold

theorem render_goes (h : Session.render notify s = (.ok (), t)) :
    ∃ leds, s.picture.leds = .ok leds ∧ t = (notify (s.showing leds)).2 := by
  rw [Session.render_eq] at h
  cases hleds : s.picture.leds with
  | error g =>
    rw [hleds] at h
    cases h
  | ok leds =>
    rw [hleds] at h
    exact ⟨leds, rfl, (congrArg Prod.snd h).symm⟩

/-- A sketch that is refused leaves the session as it is. -/
theorem generateCode_stops (h : Session.generateCode s = (.error f, t)) : t = s := by
  cases hcode : Sketch.generate s.body.pattern s.body.config.ledCount s.body.config.brightness
      s.body.config.speed s.body.wiring with
  | error g =>
    rw [Session.generateCode_error s hcode] at h
    exact (congrArg Prod.snd h).symm
  | ok written =>
    obtain ⟨log, hdone⟩ := Session.generateCode_ok s hcode
    rw [hdone] at h
    cases h

/-- **Where a play stops.** -/
theorem play_stops (hnotify : ∀ t, (notify t).1 = .ok ())
    (h : Session.play notify s = (.error f, t)) : PlayStops notify s f t := by
  obtain hstart | ⟨_, u, hstart, h⟩ := Action.andThen_eq_error h
  · obtain ⟨hidle, hloop, rfl, rfl⟩ := start_stops hstart
    exact .start hidle hloop rfl
  obtain rfl : s.started = u := congrArg Prod.snd hstart
  have hgoes : (Timed.start s).1 = .ok () := congrArg Prod.fst hstart
  obtain hrender | ⟨_, v, hrender, hcode⟩ := Action.andThen_eq_error h
  · obtain ⟨hleds, rfl⟩ := render_stops hnotify hrender
    exact .picture hgoes hleds
  obtain ⟨leds, hleds, rfl⟩ := render_goes hrender
  obtain rfl := generateCode_stops hcode
  exact .sketch hgoes hleds (congrArg Prod.fst hcode)

/-- A command selects a pattern and redraws. -/
theorem setPattern_selecting (notify : SessionAction Unit) (p : PatternId) (before : Log) :
    ∃ log, Session.setPattern notify (.id p) { s with log := s.log ++ before } =
      Session.renderIfRunning notify (s.selecting p log) := by
  obtain ⟨log, hset⟩ := Session.setPattern_eq notify { s with log := s.log ++ before } (.id p)
  refine ⟨before ++ log, hset.trans ?_⟩
  rw [selecting, ← List.append_assoc]
  rfl

/-- **Where a prompt stops.** -/
theorem prompt_stops (hnotify : ∀ t, (notify t).1 = .ok ()) {prompt : Value}
    (h : Session.applyPrompt notify prompt s = (.error f, t)) :
    PromptStops notify s prompt f t := by
  obtain hsuggest | ⟨p, u, hsuggest, h⟩ := Action.andThen_eq_error h
  · obtain rfl : s = t := congrArg Prod.snd hsuggest
    exact .prompt (congrArg Prod.fst hsuggest)
  obtain rfl : s = u := congrArg Prod.snd hsuggest
  replace hsuggest : suggest keywordTable fallbackPattern prompt = .ok p :=
    congrArg Prod.fst hsuggest
  obtain hinfo | ⟨_, _, hinfo, h⟩ := Action.andThen_eq_error h
  · cases hinfo
  cases hinfo
  obtain ⟨log, hset⟩ := setPattern_selecting (s := s) notify p
    [⟨.session, .info, "Prompt matched pattern", [detail "pattern" p.name]⟩]
  obtain hredraw | ⟨_, u, hredraw, h⟩ := Action.andThen_eq_error h
  · rw [hset, Session.renderIfRunning_eq] at hredraw
    split at hredraw
    · obtain ⟨hleds, rfl⟩ := render_stops hnotify hredraw
      exact .picture hsuggest ‹_› hleds
    · cases hredraw
  rw [hset] at hredraw
  obtain hplay | ⟨code, v, _, hdone⟩ := Action.andThen_eq_error h
  · exact .play hsuggest hredraw (play_stops hnotify hplay)
  · cases hdone

theorem perform_play_stops (h : s.perform .play = (.error f, t)) :
    PlayStops (s.notify 0) s f t := by
  obtain hplay | ⟨_, _, _, hdone⟩ := Action.andThen_eq_error h
  · exact play_stops (fun t => Session.notifyAll_result t _) hplay
  · cases hdone

theorem perform_prompt_stops {prompt : Value}
    (h : s.perform (.applyPrompt prompt) = (.error f, t)) :
    PromptStops (s.notify 0) s prompt f t := by
  obtain hprompt | ⟨_, _, _, hdone⟩ := Action.andThen_eq_error h
  · exact prompt_stops (fun t => Session.notifyAll_result t _) hprompt
  · cases hdone

end

/-! ## What stays as it was -/

/-- None of the subscribed listeners would carry out operations when it is called now. -/
def TellsQuietly (s : SessionState) : Prop := ∀ id ∈ s.body.subscribers, ¬s.IsDue id

instance (s : SessionState) : Decidable s.TellsQuietly :=
  inferInstanceAs (Decidable (∀ id ∈ s.body.subscribers, _))

/-- What a command that came to play the given pattern has left of the session `s`: the clock was
started at the most, and the LEDs are as they were or show that pattern. -/
structure Leaves (s : SessionState) (ref : PatternRef) (t : SessionState) : Prop where
  config : t.body.config = s.body.config
  code : t.body.code = s.body.code
  pattern : t.body.pattern = ref
  clock : t.clock = s.clock.after .start
  leds : t.body.leds = s.body.leds ∨ ∃ stream, (computeFrame ref s.body.config.ledCount
    s.clock.frame s.body.config.brightness stream).leds = .ok t.body.leds

section

variable {s t u : SessionState} {f : Fault} {fuel : Nat}

theorem create_tellsQuietly {setup : SessionSetup} (h : setup.create = .ok s) :
    s.TellsQuietly := by
  obtain ⟨leds, clock, -, -, rfl⟩ := SessionSetup.create_ok h
  exact fun id hid => absurd hid List.not_mem_nil

theorem started_state (s : SessionState) :
    ∃ log, s.started = { s with clock := s.clock.after .start, log := s.log ++ log } :=
  Timed.start_state s

theorem TellsQuietly.started (h : s.TellsQuietly) : s.started.TellsQuietly := by
  obtain ⟨log, hstarted⟩ := started_state s
  rw [hstarted]
  rintro id hid ⟨frame, ops, hmanner, hnow⟩
  exact h id hid ⟨frame, ops, hmanner, s.clock.alike_start.frame ▸ hnow⟩

/-- What is told quietly is heard and logged, and that is all. -/
theorem TellsQuietly.showing (h : s.TellsQuietly) (fuel : Nat) (leds : List Color) :
    ∃ log heard, (Session.notifyAll fuel (s.showing leds)).2 =
      { s with log, body := { s.body with stream := s.picture.stream, leds, heard } } := by
  obtain ⟨log, heard, htold, -⟩ := Session.notifyAll_idle (s := s.showing leds) fuel h
  exact ⟨_, heard, congrArg Prod.snd htold⟩

theorem TellsQuietly.redraw (h : s.TellsQuietly)
    (hredraw : Session.renderIfRunning (Session.notifyAll fuel) s = (.ok (), t)) :
    ∃ log stream leds heard,
      t = { s with log, body := { s.body with stream, leds, heard } } ∧
      (leds = s.body.leds ∨ s.picture.leds = .ok leds) := by
  rw [Session.renderIfRunning_eq] at hredraw
  split at hredraw
  · obtain ⟨leds, hleds, rfl⟩ := render_goes hredraw
    obtain ⟨log, heard, htold⟩ := h.showing fuel leds
    exact ⟨log, _, leds, heard, htold, .inr hleds⟩
  · cases hredraw
    exact ⟨_, _, _, _, rfl, .inl rfl⟩

/-- **What a failed play leaves.** -/
theorem PlayStops.leaves (hquiet : s.TellsQuietly)
    (h : PlayStops (Session.notifyAll fuel) s f t) : s.Leaves s.body.pattern t := by
  obtain ⟨log, hstarted⟩ := started_state s
  cases h with
  | start hidle hloop =>
    have hclock : s.clock = s.clock.after .start := by simp [Clock.after, hidle, hloop]
    exact ⟨rfl, rfl, rfl, hclock, .inl rfl⟩
  | picture =>
    rw [hstarted]
    exact ⟨rfl, rfl, rfl, rfl, .inl rfl⟩
  | sketch hgoes hleds hcode =>
    rename_i leds
    obtain ⟨_, heard, htold⟩ := hquiet.started.showing fuel leds
    rw [htold, hstarted]
    refine ⟨rfl, rfl, rfl, rfl, .inr ⟨s.body.stream, ?_⟩⟩
    rw [hstarted, SessionState.picture, s.clock.alike_start.frame] at hleds
    exact hleds

/-- **What a failed prompt leaves.** -/
theorem PromptStops.leaves (hquiet : s.TellsQuietly) {prompt : Value}
    (h : PromptStops (Session.notifyAll fuel) s prompt f t) :
    t = s ∨ ∃ p, suggest keywordTable fallbackPattern prompt = .ok p ∧ s.Leaves (.id p) t := by
  cases h with
  | prompt => exact .inl rfl
  | picture hsuggest hrunning hleds =>
    have hclock : s.clock = s.clock.after .start := by simp [Clock.after, hrunning]
    exact .inr ⟨_, hsuggest, rfl, rfl, rfl, hclock, .inl rfl⟩
  | play hsuggest hredraw hplay =>
    rename_i p log u
    obtain ⟨after, stream, leds, heard, rfl, hleds⟩ :=
      TellsQuietly.redraw (s := s.selecting p log) hquiet hredraw
    have hleaves := hplay.leaves (by exact hquiet)
    refine .inr ⟨p, hsuggest, hleaves.config, hleaves.code, hleaves.pattern, hleaves.clock, ?_⟩
    -- Playing has shown the pattern again, or left what selecting it has shown.
    obtain hkept | hshown := hleaves.leds
    · obtain hsame | hpicture := hleds
      · exact .inl (hkept.trans hsame)
      · exact .inr ⟨s.body.stream, hkept ▸ hpicture⟩
    · exact .inr hshown

/-- A play succeeds only if there is a sketch. -/
theorem TellsQuietly.play_fails (hquiet : s.TellsQuietly)
    (hcode : (Sketch.generate s.body.pattern s.body.config.ledCount s.body.config.brightness
      s.body.config.speed s.body.wiring).isOk = false) :
    ∃ f, s.perform .play = (.error f, (s.perform .play).2) := by
  rcases hplay : s.perform .play with ⟨f | result, t⟩
  · exact ⟨f, rfl⟩
  · obtain ⟨code, hplay⟩ := Action.andThen_pure_eq_ok hplay
    obtain ⟨_, u, hstart, hplay⟩ := Action.andThen_eq_ok hplay
    obtain rfl : s.started = u := congrArg Prod.snd hstart
    obtain ⟨_, u, hrender, hwritten⟩ := Action.andThen_eq_ok hplay
    obtain ⟨leds, -, rfl⟩ := render_goes hrender
    obtain ⟨log, heard, htold⟩ :=
      hquiet.started.showing (s.body.actors + SessionOp.play.actors) leds
    obtain ⟨_, hstarted⟩ := started_state s
    rw [notify, htold, hstarted] at hwritten
    obtain ⟨f, hcode⟩ := Outcome.eq_error_of_not_isOk hcode
    simp only [Session.generateCode, bind, Action.andThen, Session.get, Action.lift, hcode]
      at hwritten
    cases hwritten

end

/-- Two LEDs of a type that was made up. -/
def ofType (ledType : Value) : SessionSetup := { twoStrobing with wiring := { ledType } }

/-- Two LEDs without an event loop. -/
def loopless : SessionSetup := { twoStrobing with hasLoop := false }

theorem token_refused : (Sketch.generate (.id .strobe) (.int 2) (.int 10) (.int 97)
    (ofType (.text "@@X@@")).wiring).isOk = false := by
  unfold Sketch.generate
  rw [sketchTemplate, String.toList_intercalate]
  decide +kernel

end SessionState
end LedStudio
