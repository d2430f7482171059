import LedStudio.Proofs.Session.Abreast

/-!
# Twin sessions

Nothing that a session does depends on its log. Two sessions that are the same but for their logs
give the same results and stay the same but for their logs, whatever is done with them and however
much time passes, listeners that operate them included. Along the way they keep every property of
the settings that the changes of single settings keep, such as that all of them are integers.

* `perform`, `elapse` — operations and time on two twins.
* `whole_steps` — settings that are integers stay integers.
-/

namespace LedStudio

/-! ## Settings -/

/-- A property of settings that stays when one of them is changed. -/
structure StripConfig.Stable (P : StripConfig → Prop) : Prop where
  ledCount : ∀ {c d : StripConfig} {v : Value}, P c → c.withLedCount v = .ok d → P d
  brightness : ∀ {c d : StripConfig} {v : Value}, P c → c.withBrightness v = .ok d → P d
  speed : ∀ {c d : StripConfig} {v : Value}, P c → c.withSpeed v = .ok d → P d

/-- All settings are integers and there is an LED, as with settings that were clamped. -/
def StripConfig.Whole (c : StripConfig) : Prop :=
  ∃ n b k : Int, 1 ≤ n ∧ c = ⟨.int n, .int b, .int k⟩

theorem StripConfig.whole_stable : Stable Whole where
  ledCount := by
    rintro c d v ⟨n, b, k, -, rfl⟩ h
    obtain ⟨m, hm, rfl⟩ := withLedCount_ok h
    exact ⟨m, b, k, clampLedCount_pos hm, rfl⟩
  brightness := by
    rintro c d v ⟨n, b, k, hn, rfl⟩ h
    obtain ⟨m, -, rfl⟩ := withBrightness_ok h
    exact ⟨n, m, k, hn, rfl⟩
  speed := by
    rintro c d v ⟨n, b, k, hn, rfl⟩ h
    obtain ⟨m, -, rfl⟩ := withSpeed_ok h
    exact ⟨n, b, m, hn, rfl⟩

theorem StripConfig.Whole.withBrightness {c : StripConfig} (h : c.Whole) (b : Int) :
    ∃ d, c.withBrightness (.int b) = .ok d := by
  obtain ⟨n, b', k, hn, rfl⟩ := h
  exact ⟨_, checked_int hn _ _⟩

theorem StripConfig.Whole.withSpeed {c : StripConfig} (h : c.Whole) (k : Int) :
    ∃ d, c.withSpeed (.int k) = .ok d := by
  obtain ⟨n, b, k', hn, rfl⟩ := h
  exact ⟨_, checked_int hn _ _⟩

theorem StripConfig.whole_of_clamped {count brightness speed : Value} {c : StripConfig}
    (h : clamped count brightness speed = .ok c) : c.Whole := by
  obtain ⟨n, b, k, hn, -, -, hc⟩ := clamped_ok h
  exact ⟨n, b, k, clampLedCount_pos hn, hc⟩

namespace SessionState

/-- The two sessions are the same but for their logs, and their settings have a property. -/
def Twin (P : StripConfig → Prop) (s t : SessionState) : Prop :=
  P s.body.config ∧ ∃ log, t = { s with log := log }

namespace Twin

variable {P : StripConfig → Prop} {s t : SessionState}

theorem refl (h : P s.body.config) : Twin P s s := ⟨h, s.log, rfl⟩

theorem clock_eq (h : Twin P s t) : s.clock = t.clock := by
  obtain ⟨-, log, rfl⟩ := h
  rfl

theorem body_eq (h : Twin P s t) : s.body = t.body := by
  obtain ⟨-, log, rfl⟩ := h
  rfl

/-- The logs may be any. -/
theorem relog (h : Twin P s t) (front back : Log) :
    Twin P { s with log := front } { t with log := back } := by
  obtain ⟨hP, log, rfl⟩ := h
  exact ⟨hP, back, rfl⟩

theorem abreast (hP : StripConfig.Stable P) : Abreast (Twin P) where
  timed := by
    refine Timed.Parallel.abreast ⟨clock_eq, ?_⟩
    rintro s _ ⟨hs, log, rfl⟩ c more
    exact ⟨hs, log ++ more, rfl⟩
  body := by
    rintro s _ ⟨-, log, rfl⟩
    exact ⟨s.body.heard, rfl⟩
  relog := relog
  hear := by
    rintro s _ ⟨hs, log, rfl⟩ id
    exact ⟨hs, log, rfl⟩
  change := by
    rintro s _ ⟨hs, log, rfl⟩ f hf
    exact ⟨(hf.config s.body).symm ▸ hs, log, rfl⟩
  ledCount := by
    rintro s _ ⟨hs, log, rfl⟩ v config hconfig
    exact ⟨hP.ledCount hs hconfig, log, rfl⟩
  brightness := by
    rintro s _ ⟨hs, log, rfl⟩ v config hconfig
    exact ⟨hP.brightness hs hconfig, log, rfl⟩
  speed := by
    rintro s _ ⟨hs, log, rfl⟩ v config hconfig
    exact ⟨hP.speed hs hconfig, log, rfl⟩

/-- **An operation on two twins** gives the same and leaves twins. -/
theorem perform (hP : StripConfig.Stable P) (h : Twin P s t) (op : SessionOp) :
    (s.perform op).1 = (t.perform op).1 ∧ Twin P (s.perform op).2 (t.perform op).2 :=
  (abreast hP).attended.perform h op

theorem settle (hP : StripConfig.Stable P) (h : Twin P s t) : Twin P s.settle t.settle :=
  (abreast hP).timed.settle h

theorem elapse (hP : StripConfig.Stable P) (h : Twin P s t) (ms : Nat) :
    Twin P (s.elapse ms) (t.elapse ms) :=
  (abreast hP).attended.elapse h ms

end Twin

/-- A session has the settings that it was made of. -/
theorem config_of_create {setup : SessionSetup} {s : SessionState} (hs : setup.create = .ok s) :
    s.body.config = setup.config := by
  obtain ⟨leds, clock, -, -, rfl⟩ := SessionSetup.create_ok hs
  rfl

/-- Settings that are integers stay integers. -/
theorem whole_steps {s : SessionState} (h : s.body.config.Whole) (todo : List SessionStep) :
    (s.steps todo).body.config.Whole :=
  ((Twin.abreast StripConfig.whole_stable).attended.steps (.refl h) todo).1

end SessionState
end LedStudio
