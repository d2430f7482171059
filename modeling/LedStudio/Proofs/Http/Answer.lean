import LedStudio.Http.Api
import LedStudio.Proofs.Session.Twin
import Mathlib.Data.List.Forall2

/-!
# Answers of the session's routes

What an answer says about a session, read off the answer: its fields by their names, and the colour
of an LED by its channels and by its hexadecimal text, which is read back.

* `shows_sessionJson` — a session that is shown is described by what is shown of it.
* `sessionJson_eq_error` — only half characters in the name of a pattern keep a session with integer
  settings from being shown.
-/

namespace LedStudio

/-! ## Colours read back -/

/-- The byte that two hexadecimal digits spell. -/
def Color.byte? (high low : Char) : Option UInt8 := do
  return .ofNat (16 * (← Text.asciiDigit? 16 high) + (← Text.asciiDigit? 16 low))

/-- The colour that a text such as `#ff8000` spells. -/
def Color.ofHex? (s : String) : Option Color :=
  match s.toList with
  | ['#', rh, rl, gh, gl, bh, bl] => do return ⟨← byte? rh rl, ← byte? gh gl, ← byte? bh bl⟩
  | _ => none

theorem Color.toList_hexByte (byte : UInt8) : ∃ high low, (hexByte byte).toList = [high, low] ∧
    byte? high low = some byte := by
  have hall : ∀ n < 256, byte? (Nat.digitChar (n / 16 % 16)) (Nat.digitChar (n % 16)) =
      some (.ofNat n) := by
    decide +kernel
  refine ⟨Nat.digitChar (byte.toNat / 16 % 16), Nat.digitChar (byte.toNat % 16), ?_, ?_⟩
  · rw [hexByte, String.toList_ofList]
    rfl
  · rw [hall byte.toNat byte.toNat_lt]
    simp

/-- The text of a colour spells the colour. -/
theorem Color.ofHex?_hex (c : Color) : ofHex? c.hex = some c := by
  obtain ⟨rh, rl, hred, hr⟩ := toList_hexByte c.red
  obtain ⟨gh, gl, hgreen, hg⟩ := toList_hexByte c.green
  obtain ⟨bh, bl, hblue, hb⟩ := toList_hexByte c.blue
  have hlist : c.hex.toList = ['#', rh, rl, gh, gl, bh, bl] := by
    simp only [hex, String.toList_append, hred, hgreen, hblue]
    rfl
  simp only [ofHex?, hlist, hr, hg, hb, bind, Option.bind, pure]

/-! ## What an answer says -/

namespace Http

/-- An entry shows an LED: by its channels, and by a text that spells the same. -/
structure ShowsLed (v : Json) (c : Color) : Prop where
  red : v.field? "r" = some (.int c.red.toNat)
  green : v.field? "g" = some (.int c.green.toNat)
  blue : v.field? "b" = some (.int c.blue.toNat)
  hex : ∃ text, v.field? "hex" = some (.text text) ∧ Color.ofHex? text = some c

/-- An answer shows a session. -/
structure Shows (v : Json) (s : SessionState) : Prop where
  pattern : v.field? "pattern" = some (.text s.body.pattern.name)
  settings : ∃ n b k : Int, s.body.config = ⟨.int n, .int b, .int k⟩ ∧
    v.field? "led_count" = some (.int n) ∧ v.field? "brightness" = some (.int b) ∧
    v.field? "speed" = some (.int k)
  frame : v.field? "frame" = some (.int s.clock.frame)
  state : v.field? "state" = some (.text (if s.clock.isRunning then "RUNNING" else "IDLE"))
  interval : v.field? "interval_ms" = some (.int s.clock.interval)
  leds : ∃ items, v.field? "leds" = some (.list items) ∧ List.Forall₂ ShowsLed items s.body.leds
  hasCode : v.field? "has_code" = some (.bool s.body.code.isSome)

theorem showsLed_ledJson (c : Color) : ShowsLed (ledJson c) c where
  red := rfl
  green := rfl
  blue := rfl
  hex := ⟨c.hex, rfl, c.ofHex?_hex⟩

theorem shownSettings_ints (n b k : Int) :
    shownSettings ⟨.int n, .int b, .int k⟩ = .ok (n, b, k) := by
  simp only [shownSettings, Json.ofValue, readInteger]

/-- The name of the pattern has no half characters. -/
def Writable (s : SessionState) : Prop := ∀ points, s.body.pattern ≠ .broken points

instance (s : SessionState) : Decidable (Writable s) :=
  match h : s.body.pattern with
  | .id _ | .value _ => .isTrue fun points => by rw [h]; nofun
  | .broken points => .isFalse fun hw => hw points h

theorem patternName_ok {ref : PatternRef} (h : ∀ points, ref ≠ .broken points) :
    patternName ref = .ok (.text ref.name) := by
  cases ref with
  | id p => rfl
  | value v => rfl
  | broken points => exact absurd rfl (h points)

/-- What is shown of a session with integer settings and a pattern that can be written. -/
theorem sessionJson_eq {s : SessionState} {n b k : Int}
    (hconfig : s.body.config = ⟨.int n, .int b, .int k⟩) (h : Writable s) :
    sessionJson s = .ok (.object [("pattern", .text s.body.pattern.name), ("led_count", .int n),
      ("brightness", .int b), ("speed", .int k), ("frame", .int s.clock.frame),
      ("state", .text s.clock.stateName), ("interval_ms", .int s.clock.interval),
      ("leds", .list (s.body.leds.map ledJson)), ("has_code", .bool s.body.code.isSome)]) := by
  unfold sessionJson
  rw [hconfig, shownSettings_ints, patternName_ok h]
  rfl

theorem stateName_eq (c : Clock) : c.stateName = if c.isRunning then "RUNNING" else "IDLE" := by
  unfold Clock.stateName Clock.state
  split <;> rfl

/-- A session with integer settings and a pattern that can be written is shown as it is. -/
theorem shows_sessionJson {s : SessionState} (hwhole : s.body.config.Whole) (h : Writable s) :
    ∃ v, sessionJson s = .ok v ∧ Shows v s := by
  obtain ⟨n, b, k, -, hconfig⟩ := hwhole
  have hleds : List.Forall₂ ShowsLed (s.body.leds.map ledJson) s.body.leds := by
    rw [List.forall₂_map_left_iff, List.forall₂_same]
    exact fun c _ => showsLed_ledJson c
  refine ⟨_, sessionJson_eq hconfig h, ?_⟩
  exact
    { pattern := rfl
      settings := ⟨n, b, k, hconfig, rfl, rfl, rfl⟩
      frame := rfl
      state := by rw [← stateName_eq]; rfl
      interval := rfl
      leds := ⟨_, rfl, hleds⟩
      hasCode := rfl }

/-- Half characters keep a session from being shown. -/
theorem sessionJson_eq_error {s : SessionState} (hwhole : s.body.config.Whole)
    (h : ¬Writable s) : ∃ f, sessionJson s = .error f := by
  obtain ⟨n, b, k, -, hconfig⟩ := hwhole
  cases hpattern : s.body.pattern with
  | id p => exact absurd (fun points => by rw [hpattern]; nofun) h
  | value v => exact absurd (fun points => by rw [hpattern]; nofun) h
  | broken points =>
    refine ⟨.unfitPoints points, ?_⟩
    unfold sessionJson
    rw [hconfig, shownSettings_ints, hpattern]
    rfl

/-! ## Sessions that look the same -/

theorem Shows.settle {v : Json} {s : SessionState} (h : Shows v s) : Shows v s.settle where
  pattern := h.pattern
  settings := h.settings
  frame := h.frame.trans (by rw [← s.clock.alike_settled.frame]; rfl)
  state := h.state.trans (by rw [← Clock.isRunning_settled]; rfl)
  interval := h.interval.trans (by rw [← Clock.interval_settled]; rfl)
  leds := h.leds
  hasCode := h.hasCode

theorem Shows.of_twin {v : Json} {P : StripConfig → Prop} {s t : SessionState} (h : Shows v s)
    (htwin : SessionState.Twin P s t) : Shows v t := by
  obtain ⟨-, log, rfl⟩ := htwin
  exact { h with }

end Http
end LedStudio
