import LedStudio.Proofs.Session.Abreast
import LedStudio.Proofs.Session.Invariant
import LedStudio.Proofs.Sketch.Listing
import LedStudio.Proofs.Sketch.Plain

/-!
# The sketch and the preview

A sketch is written with settings that it clamps again, and the preview of a session shows what the
settings, the pattern and the clock say. The two agree at any time: the sketch has as many LEDs as
the preview, the brightness that the preview scales with, the pace of its clock, and the body for
the rule that it paints by.

* `steps_wiring` — nothing sets the wiring.
* `generateCode_exact` — writing a sketch changes the session's own copy of it and nothing else.
* `generateCode_settled` — a sketch hangs on the pattern, the settings and the wiring.
* `export_matches_preview` — the lines of the sketch beside what the preview shows.
-/

namespace LedStudio

theorem PatternId.snippet_ne_solidWhite (p : PatternId) : p.snippet ≠ Snippet.solidWhite := by
  cases p <;> decide +kernel

theorem PatternRef.snippet_eq_solidWhite (ref : PatternRef) :
    ref.snippet = Snippet.solidWhite ↔ ref.resolve = none := by
  unfold snippet
  cases h : ref.resolve with
  | none => simp
  | some p => simpa using p.snippet_ne_solidWhite

namespace SessionState

variable {s t u : SessionState} {code : String}

/-! ## What a sketch is written with -/

/-- Nothing that is done with a session, or by its listeners, sets the wiring. -/
theorem wiring_attended (w : Wiring) : Attended (Beside fun b => b.wiring = w) :=
  Beside.attended (fun hf hb => (hf.wiring _).trans hb) (fun _ hb => hb) fun _ hb => hb

/-- **A session keeps the wiring that it was made with.** -/
theorem steps_wiring (s : SessionState) (todo : List SessionStep) :
    (s.steps todo).body.wiring = s.body.wiring :=
  ((wiring_attended s.body.wiring).steps (s := s) ⟨rfl, s.log, rfl⟩ todo).1

theorem wiring_of_create {setup : SessionSetup} {s : SessionState} (hs : setup.create = .ok s) :
    s.body.wiring = setup.wiring := by
  obtain ⟨leds, clock, -, -, rfl⟩ := SessionSetup.create_ok hs
  rfl

/-- What the session holds is written, and nothing else changes. -/
theorem generateCode_exact (h : s.perform .generateCode = (.ok (.code code), u)) :
    (∃ log, Sketch.generate s.body.pattern s.body.config.ledCount s.body.config.brightness
      s.body.config.speed s.body.wiring = .ok (code, log)) ∧
    u.clock = s.clock ∧ u.body = { s.body with code := some code } := by
  obtain ⟨written, v, hwritten, hdone⟩ := Action.andThen_eq_ok h
  cases hdone
  cases hgenerate : Sketch.generate s.body.pattern s.body.config.ledCount s.body.config.brightness
      s.body.config.speed s.body.wiring with
  | error f =>
    rw [Session.generateCode_error s hgenerate] at hwritten
    cases hwritten
  | ok sketch =>
    obtain ⟨log, hcode⟩ := Session.generateCode_ok s hgenerate
    rw [hcode] at hwritten
    cases hwritten
    exact ⟨⟨sketch.2, rfl⟩, rfl, rfl⟩

/-- Sessions with the same pattern, settings and wiring write the same sketch. -/
theorem generateCode_settled (h : s.perform .generateCode = (.ok (.code code), u))
    (hpattern : t.body.pattern = s.body.pattern) (hconfig : t.body.config = s.body.config)
    (hwiring : t.body.wiring = s.body.wiring) :
    (t.perform .generateCode).1 = .ok (.code code) := by
  obtain ⟨⟨log, hgenerate⟩, -, -⟩ := generateCode_exact h
  rw [← hpattern, ← hconfig, ← hwiring] at hgenerate
  obtain ⟨more, hcode⟩ := Session.generateCode_ok t hgenerate
  show (Action.andThen Session.generateCode (fun code => pure (SessionResult.code code)) t).1 = _
  rw [Action.andThen_ok hcode]
  rfl

/-! ## Beside the preview -/

/-- The preview goes by this brightness and this pause, and by the rule of its pattern: it lights as
many LEDs as the session has, each painted by the rule and scaled by the brightness. -/
structure Previews (t : SessionState) (level delay : Int) : Prop where
  brightness : t.body.config.brightness = .int level
  pace : (t.clock.interval : Int) = max (t.clock.minInterval : Int) delay
  leds : ∀ leds, t.picture.leds = .ok leds → leds.length = t.body.leds.length ∧
    ∀ (i : Nat) (hi : i < leds.length), ∃ sample,
      (paint t.body.pattern.resolve i t.clock.frame leds.length sample).bind
        (·.withBrightness (.int level)) = .ok leds[i]

theorem Sound.previews {least : Nat} (h : Sound least t) {b : Int}
    (hb : t.body.config.brightness = .int b) : t.Previews b (100 - t.clock.speed) := by
  obtain ⟨n, hn, hpos, hlength⟩ := h.count
  refine ⟨hb, ?_, fun leds hleds => ?_⟩
  · have hrange := h.range
    unfold Clock.interval
    omega
  · rw [picture, hn, hb] at hleds
    have hsame := computeFrame_length hpos hleds
    refine ⟨by omega, fun i hi => ?_⟩
    have hled := computeFrame_led hpos hleds i hi
    rw [← hsame] at hled
    exact ⟨_, hled⟩

/-- The lines of the sketch of a session whose fields agree. -/
theorem Sound.lines {least : Nat} (h : Sound least t) (hwiring : t.body.wiring.Tidy)
    (hcode : t.perform .generateCode = (.ok (.code code), u)) :
    ∃ (level delay : Int) (pin type order : String), t.Previews level delay ∧
      t.body.wiring.ledPin.written = .ok pin ∧
      Sketch.replacement t.body.wiring.ledType = .ok type ∧
      Sketch.replacement t.body.wiring.colorOrder = .ok order ∧
      Text.lines code =
        Sketch.listing t.body.pattern t.body.leds.length level delay pin type order := by
  obtain ⟨n, hn, hpos, hlength⟩ := h.count
  obtain ⟨b, hb, hlow, hhigh⟩ := h.brightness
  have hrange := h.range
  obtain ⟨⟨log, hgenerate⟩, -⟩ := generateCode_exact hcode
  rw [hn, hb, h.speed] at hgenerate
  obtain ⟨pin, type, order, hpin, htype, horder, hlines⟩ :=
    hwiring.lines (Int.le_of_lt hpos) hgenerate
  have hcount : max 1 n = t.body.leds.length := by omega
  have hlevel : max 0 (min 100 b) = b := by omega
  have hspeed : max 0 (min 100 t.clock.speed) = t.clock.speed := by omega
  rw [hcount, hlevel, hspeed] at hlines
  exact ⟨b, _, pin, type, order, h.previews hb, hpin, htype, horder, hlines⟩

end SessionState

open SessionState (Previews)

/-- **A sketch matches the preview.** Take a session of clamped settings with a tidy wiring, and any
steps, failing ones and what listeners do included; only where the number of LEDs is set, there has
to be room for them. If a sketch is then written, nothing changes but the session's copy of it. Its
lines have the number of LEDs that the session has, the brightness that the preview scales with, a
pause that is the interval of the clock but for its least one, and the body for the rule that the
preview paints by, which is solid white only for a pattern that is none. It would be the same at
another frame, with another clock, other colours and other random numbers. -/
theorem export_matches_preview {setup : SessionSetup} {count brightness speed : Value}
    (hconfig : StripConfig.clamped count brightness speed = .ok setup.config)
    (hwiring : setup.wiring.Tidy) {s : SessionState} (hs : setup.create = .ok s)
    {todo : List SessionStep} (htodo : ∀ step ∈ todo, step.Buildable) {code : String}
    {u : SessionState} (hcode : (s.steps todo).perform .generateCode = (.ok (.code code), u)) :
    let t := s.steps todo
    (u.clock = t.clock ∧ u.body = { t.body with code := some code }) ∧
    (∃ (level delay : Int) (pin type order : String), t.Previews level delay ∧
      setup.wiring.ledPin.written = .ok pin ∧
      Sketch.replacement setup.wiring.ledType = .ok type ∧
      Sketch.replacement setup.wiring.colorOrder = .ok order ∧
      Text.lines code =
        Sketch.listing t.body.pattern t.body.leds.length level delay pin type order) ∧
    t.body.pattern.snippet =
      (t.body.pattern.resolve.map PatternId.snippet).getD Snippet.solidWhite ∧
    (t.body.pattern.snippet = Snippet.solidWhite ↔ t.body.pattern.resolve = none) ∧
    (∀ v : SessionState, v.body.pattern = t.body.pattern → v.body.config = t.body.config →
      v.body.wiring = t.body.wiring → (v.perform .generateCode).1 = .ok (.code code)) := by
  intro t
  obtain ⟨leds, clock, -, hclock, -⟩ := SessionSetup.create_ok hs
  obtain ⟨k, hk, -⟩ := Clock.create_spec hclock
  have hsound : t.Sound (max 1 k).toNat := (SessionSetup.create_sound hconfig hk hs).steps htodo
  have hkept : t.body.wiring = setup.wiring :=
    (s.steps_wiring todo).trans (SessionState.wiring_of_create hs)
  rw [← hkept] at hwiring ⊢
  refine ⟨(SessionState.generateCode_exact hcode).2, hsound.lines hwiring hcode, ?_,
    t.body.pattern.snippet_eq_solidWhite, fun v hpattern hconfig hwiring =>
      SessionState.generateCode_settled hcode hpattern hconfig hwiring⟩
  unfold PatternRef.snippet
  cases t.body.pattern.resolve <;> rfl

theorem Wiring.Plain.tidy {w : Wiring} {pin type order : String} (h : w.Plain pin type order)
    (hline : ∀ s ∈ [pin, type, order], '\n' ∉ s.toList) : w.Tidy := by
  have htexts : ∀ s, w.ledPin.written = .ok s ∨ Sketch.replacement w.ledType = .ok s ∨
      Sketch.replacement w.colorOrder = .ok s → s ∈ [pin, type, order] := by
    rw [h.ledPin, h.ledType, h.colorOrder]
    rintro s (hs | hs | hs) <;> cases hs <;> simp
  exact ⟨fun s hs => h.free s (htexts s hs), fun s hs => hline s (htexts s hs)⟩

/-- A listener sets the brightness at the first tick, and a count is refused. -/
def brighteningSteps : List SessionStep :=
  [.op (.subscribe "view" (.act none [.setBrightness (.int 200)])), .op .start, .elapse 7,
   .op (.setLedCount (.int (-1)))]

theorem brighteningSteps_buildable : ∀ step ∈ brighteningSteps, step.Buildable := by
  simp only [brighteningSteps, List.forall_mem_cons]
  refine ⟨⟨trivial, trivial⟩, trivial, trivial, fun n hn => ?_, ?_⟩
  · cases hn
  · exact fun _ h => absurd h List.not_mem_nil

/-- The brightness that the listener set is the one of the sketch, and the pattern is none, so that
the sketch has the body of solid white. -/
theorem export_matches_preview_brightening :
    StripConfig.clamped (.int 2) (.int 5) (.int 97) = .ok twoLeds.config ∧ twoLeds.wiring.Tidy ∧
    (∀ step ∈ brighteningSteps, step.Buildable) ∧
    ∃ s, twoLeds.create = .ok s ∧
      let t := s.steps brighteningSteps
      t.clock.frame = 2 ∧ t.body.config.brightness = .int 100 ∧
      ∃ code u, t.perform .generateCode = (.ok (.code code), u) ∧
        u.body = { t.body with code := some code } ∧
        t.body.pattern.snippet = Snippet.solidWhite ∧
        ∃ (delay : Int) (pin type order : String), t.Previews 100 delay ∧
          Text.lines code =
            Sketch.listing t.body.pattern t.body.leds.length 100 delay pin type order := by
  have hconfig : StripConfig.clamped (.int 2) (.int 5) (.int 97) = .ok twoLeds.config := rfl
  have htidy : twoLeds.wiring.Tidy := Wiring.plain_default.tidy (by decide)
  refine ⟨hconfig, htidy, brighteningSteps_buildable, _, rfl, ?_⟩
  intro t
  have hsound : t.Sound 1 :=
    (SessionSetup.create_sound hconfig rfl rfl).steps brighteningSteps_buildable
  have hnone : t.body.pattern.resolve = none := by decide +kernel
  have hcount : t.body.config.ledCount = .int 2 := by
    have hlength : t.body.leds.length = 2 := by decide +kernel
    obtain ⟨n, hn, -, hn'⟩ := hsound.count
    rw [hn, ← hn', hlength]
    rfl
  have hlevel : t.body.config.brightness = .int 100 := by
    have hread : t.body.config.brightness.toInt.toOption = some 100 := by decide +kernel
    obtain ⟨b, hb, -⟩ := hsound.brightness
    rw [hb] at hread ⊢
    cases hread
    rfl
  have hwiring : t.body.wiring = {} := SessionState.steps_wiring _ brighteningSteps
  obtain ⟨log, hwritten⟩ := Sketch.generate_plain Wiring.plain_default t.body.pattern
    (n := 2) (by decide) (isWritableInt_of_digit (by decide)) 100 t.clock.speed
  rw [← hcount, ← hlevel, ← hsound.speed, ← hwiring] at hwritten
  obtain ⟨more, hcode⟩ := Session.generateCode_ok t hwritten
  have hdone : t.perform .generateCode = (.ok (.code _), _) := Action.andThen_ok hcode
  obtain ⟨⟨-, hbody⟩, ⟨level, delay, pin, type, order, hpreviews, -, -, -, hlines⟩, -, hwhite, -⟩ :=
    export_matches_preview hconfig htidy rfl brighteningSteps_buildable hdone
  obtain rfl : level = 100 := Value.int.inj (hpreviews.brightness.symm.trans hlevel)
  exact ⟨by decide +kernel, hlevel, _, _, hdone, hbody, hwhite.mpr hnone, delay, pin, type, order,
    hpreviews, hlines⟩

end LedStudio
