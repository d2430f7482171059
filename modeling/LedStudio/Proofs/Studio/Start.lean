import LedStudio.Proofs.Session.Counting
import LedStudio.Studio

/-!
# Starting a studio

A start goes through the settings one after the other, and each may be refused. All of them are read
before anything is put in place, but for two: the host and the port are read only when the session
already stands behind the interface.

* `start_meets` — what a start puts in place, and what is left by one that fails.
* `failed_run_leaves_session_only` — what a run leaves behind when its start fails.
* `refused_port_leaves_session` — one that leaves the session behind the interface.
-/

namespace LedStudio
namespace Studio

open LedStudio.Action (Keeps Meets)

/-- Nothing was put in place. -/
structure Untouched (s : Studio) : Prop where
  session : s.session = none
  isInstalled : s.isInstalled = false
  options : s.options = none
  server : s.server = none
  signalWait : s.signalWait = none

/-- A session at rest stands behind the interface, and nothing else was put in place. -/
structure Opened (s : Studio) : Prop where
  session : ∃ t, s.session = some t ∧ t.clock.cadence = .idle
  isInstalled : s.isInstalled = true
  options : s.options = none
  server : s.server = none
  signalWait : s.signalWait = none

/-- A session stands behind the interface, and a server and a wait for a signal have begun. -/
structure Serving (s : Studio) : Prop where
  session : s.session.isSome = true
  isInstalled : s.isInstalled = true
  server : s.server = some .unfinished
  signalWait : s.signalWait = some .unfinished

/-! ## Before the session is put in place -/

theorem note_untouched (level : LogLevel) (message : String) (details : List String) :
    Keeps Untouched (note level message details) :=
  .modify fun _ h => { h with }

theorem append_untouched (log : Log) : Keeps Untouched (append log) := .modify fun _ h => { h with }

theorem loadSettings_untouched (launch : Launch) : Keeps Untouched (loadSettings launch) := by
  intro s hs
  unfold loadSettings
  dsimp only
  split <;> exact { hs with }

/-- A session at rest, with no listener that could start it. -/
structure AtRest (t : SessionState) : Prop where
  cadence : t.clock.cadence = .idle
  bystander : t.body.IsBystander

theorem create_atRest {setup : SessionSetup} {t : SessionState} (h : setup.create = .ok t) :
    AtRest t := by
  obtain ⟨leds, clock, -, hclock, rfl⟩ := SessionSetup.create_ok h
  obtain ⟨-, -, -, -, -, -, hidle⟩ := Clock.create_spec hclock
  exact ⟨hidle, .inl rfl⟩

theorem AtRest.render {t : SessionState} (h : AtRest t) :
    AtRest (Session.render (t.notify 0) t).2 := by
  obtain ⟨hclock, hleft⟩ := Session.render_bystander (t.body.actors + 0) h.bystander
  exact ⟨(congrArg (·.cadence) hclock).trans h.cadence, hleft⟩

/-- Making a session adds to the log and does nothing else. -/
theorem makeSession_meets {I : Studio → Prop} (hlog : ∀ log, Keeps I (append log))
    (settings : Settings) (stream : Stream) :
    Meets I (makeSession settings stream) (fun t s => I s ∧ AtRest t) (fun _ => I) := by
  refine .bind (.of_keeps (.lift _)) fun config => ?_
  refine .bind (.of_keeps (.lift _)) fun found => ?_
  refine .bind (.of_keeps (hlog _)) fun _ => ?_
  refine .bind (.of_keeps (.lift _)) fun wiring => ?_
  refine .bind (.of_keeps (.lift _)) fun least => ?_
  apply Meets.lift
  · intro t hcreated s hs
    exact ⟨hs, create_atRest hcreated⟩
  · intro f _ s hs
    exact hs

theorem renderFirst_meets {t : SessionState} (ht : AtRest t) :
    Meets Untouched (renderFirst t) (fun t s => Untouched s ∧ AtRest t) (fun _ => Untouched) := by
  intro s hs
  have hrest := ht.render
  unfold renderFirst
  rcases h : Session.render (t.notify 0) t with ⟨f | _, u⟩ <;> rw [h] at hrest
  · exact { hs with }
  · exact ⟨{ hs with }, { hrest with }⟩

theorem noteSession_untouched (t : SessionState) : Keeps Untouched (noteSession t) := by
  refine Keeps.bind (fun _ h => h) fun s => ?_
  split
  · exact (Keeps.lift _).bind fun _ => (Keeps.lift _).bind fun _ => note_untouched _ _ _
  · exact .pure ()

/-! ## Once the session is in place -/

theorem openSession_meets (stream : Stream) :
    Meets Untouched (openSession stream) (fun _ => Opened) (fun _ => Untouched) := by
  refine .bind .get fun x => ?_
  have hmake := makeSession_meets append_untouched x.settings stream
  refine .bind (hmake.of_imp fun _ h => h.2) fun made => ?_
  refine .bind (.under renderFirst_meets) fun t => .under fun ht => ?_
  refine .bind (.of_keeps (noteSession_untouched t)) fun _ => ?_
  have hput : Meets Untouched
      (Action.modify fun s => { s with session := some t, isInstalled := true })
      (fun _ => Opened) (fun _ => Untouched) :=
    .modify fun s hs => { hs with session := ⟨t, rfl, ht.cadence⟩, isInstalled := rfl }
  refine .bind hput fun _ => ?_
  exact .keep fun _ hs => { hs with }

/-- What may be refused when the session already stands behind the interface. -/
def LateRefusal (launch : Launch) (f : Fault) (s : Studio) : Prop :=
  launch.api.create = .error f ∨ s.settings.host = .error f ∨
    (∃ host, s.settings.host = .ok host) ∧ s.settings.port = .error f

/-- The server has begun. -/
structure Begun (s : Studio) : Prop where
  session : s.session.isSome = true
  isInstalled : s.isInstalled = true
  server : s.server = some .unfinished

theorem openServer_meets (launch : Launch) :
    Meets Opened (openServer launch) (fun _ => Begun)
      (fun f s => Opened s ∧ LateRefusal launch f s) := by
  refine .bind (.lift_eq fun f hf s hs => ⟨hs, .inl hf⟩) fun record => .under fun _ => ?_
  refine .bind (.keep fun _ hs => { hs with }) fun _ => ?_
  refine .bind .get fun x => ?_
  refine .bind (.lift_eq ?_) fun host => .under fun hhost => ?_
  · rintro f hf s ⟨rfl, hs⟩
    exact ⟨hs, .inr (.inl hf)⟩
  -- the host was read, and the port is the only setting that is left
  refine .bind (.lift_eq ?_) fun port => .under fun _ => ?_
  · rintro f hf s ⟨rfl, hs⟩
    exact ⟨hs, .inr (.inr ⟨⟨host, hhost⟩, hf⟩)⟩
  have hbegin : Meets (fun s => x = s ∧ Opened s)
      (Action.modify fun s =>
        { s with options := some ⟨host, port, "info", "asyncio", false⟩, server := some .unfinished })
      (fun _ => Begun) (fun f s => Opened s ∧ LateRefusal launch f s) := by
    rintro s ⟨-, hs⟩
    obtain ⟨t, ht, -⟩ := hs.session
    exact ⟨by rw [ht]; rfl, hs.isInstalled, rfl⟩
  refine .bind hbegin fun _ => ?_
  dsimp only
  split
  · refine .bind (.keep fun _ hs => { hs with }) fun _ => ?_
    exact .pure fun _ hs => hs
  · exact .pure fun _ hs => hs

/-- **What a start puts in place**, and what is left by one that fails. -/
theorem start_meets (launch : Launch) :
    Meets Untouched (start launch) (fun _ => Serving)
      (fun f s => Untouched s ∨ Opened s ∧ LateRefusal launch f s) := by
  have hload := Meets.of_keeps (loadSettings_untouched launch)
  refine .bind (hload.or_failed fun _ _ => .inl) fun _ => ?_
  refine .bind (.keep fun _ hs => { hs with }) fun _ => ?_
  refine .bind ((openSession_meets launch.stream).or_failed fun _ _ => .inl) fun _ => ?_
  -- from here on the session is in place, and a refusal leaves it there
  refine .bind ((openServer_meets launch).or_failed fun _ _ => .inr) fun options => ?_
  refine .bind (.keep fun _ hs => { hs with }) fun _ => ?_
  have hwait : Meets Begun (Action.modify fun s => { s with signalWait := some .unfinished })
      (fun _ => Serving) (fun f s => Untouched s ∨ Opened s ∧ LateRefusal launch f s) :=
    .modify fun s hs => { hs with signalWait := rfl }
  refine .bind hwait fun _ => ?_
  exact .keep fun _ hs => { hs with }

theorem untouched_empty : Untouched {} := ⟨rfl, rfl, rfl, rfl, rfl⟩

/-- A run fails only where its start does. -/
theorem run_error {launch : Launch} {visits : List Http.Visit} {ending : Ending} {f : Fault}
    (h : (run launch visits ending).outcome = .error f) :
    start launch {} = (.error f, (run launch visits ending).studio) := by
  unfold run at h ⊢
  rcases hstart : start launch {} with ⟨g | _, s⟩ <;> rw [hstart] at h <;> cases h
  rfl

/-- **A run that fails leaves nothing behind but a session at rest**, and that only if the settings
were all right up to the host or the port: either nothing was put in place, or the session stands
behind the interface, and what was refused is one of these two, or the interface itself. There is no
server, and no session that was made on the way had a clock that ran. -/
theorem failed_run_leaves_session_only (launch : Launch) (visits : List Http.Visit)
    (ending : Ending) {f : Fault} (h : (run launch visits ending).outcome = .error f) :
    let s := (run launch visits ending).studio
    (s.options = none ∧ s.server = none ∧ s.signalWait = none) ∧
    (s.isInstalled = false ∧ s.session = none ∨
      s.isInstalled = true ∧ (∃ t, s.session = some t ∧ t.clock.cadence = .idle) ∧
        LateRefusal launch f s) ∧
    ∀ settings x t y, makeSession settings launch.stream x = (.ok t, y) →
      t.clock.cadence = .idle ∧ (Session.render (t.notify 0) t).2.clock.cadence = .idle := by
  intro s
  have hleft := start_meets launch {} untouched_empty
  rw [run_error h] at hleft
  refine ⟨?_, ?_, fun settings x t y hmade => ?_⟩
  · rcases hleft with hs | ⟨hs, -⟩ <;> exact ⟨hs.options, hs.server, hs.signalWait⟩
  · exact hleft.imp (fun hs => ⟨hs.isInstalled, hs.session⟩)
      fun ⟨hs, hlate⟩ => ⟨hs.isInstalled, hs.session, hlate⟩
  · have hlog : ∀ log, Keeps (fun _ => True) (append log) := fun _ _ _ => trivial
    have hrest := makeSession_meets hlog settings launch.stream x trivial
    rw [hmade] at hrest
    exact ⟨hrest.2.cadence, hrest.2.render.cadence⟩

/-- A launch with a single document of settings. -/
def launchWith (settings : Entries) : Launch where
  source :=
    { read := fun name =>
        if name = "config.yaml" then .ok (.map settings) else .error (.fileNotFound name)
      path := id }
  api := { stamp := ⟨"today", "first"⟩ }
  stream := .cycle #[]

/-- Fewer LEDs than none. -/
def shrunkenStrip : Entries := [(.text "strip", .map [(.text "led_count", .int (-5))])]

theorem failed_run_leaves_session_only_shrinking :
    let ran := run (launchWith shrunkenStrip) [] .returned
    (∃ f, ran.outcome = .error f) ∧
      ran.studio.isInstalled = false ∧ ran.studio.session = none ∧ ran.studio.server = none := by
  intro ran
  have hfails : ran.outcome.isOk = false ∧ ran.studio.isInstalled = false := by decide +kernel
  cases hran : ran.outcome with
  | ok _ =>
    rw [hran] at hfails
    cases hfails.1
  | error f =>
    obtain ⟨⟨-, hserver, -⟩, ⟨-, hsession⟩ | ⟨hleft, -⟩, -⟩ :=
      failed_run_leaves_session_only _ _ _ hran
    · exact ⟨⟨f, rfl⟩, hfails.2, hsession, hserver⟩
    · cases hfails.2.symm.trans hleft

/-- A port that is no number. -/
def portInLetters : Entries :=
  [(.text "strip", .map [(.text "led_count", .int 1)]),
    (.text "api", .map [(.text "port", .text "abc")])]

/-- The port is refused only when the session stands behind the interface, and there it stays. -/
theorem refused_port_leaves_session :
    let ran := run (launchWith portInLetters) [] .returned
    ran.outcome.isOk = false ∧ ran.studio.isInstalled = true ∧
      ran.studio.desk.session.isSome = true := by
  decide +kernel

end Studio
end LedStudio
