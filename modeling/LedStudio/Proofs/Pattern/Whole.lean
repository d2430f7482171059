import LedStudio.Proofs.Pattern.Brightness
import LedStudio.Proofs.Pattern.LedByLed

/-!
# Whole strips

A frame is made of the colours that the rule of its pattern gives to the LEDs, each scaled by the
brightness. Two frames for which the rule gives the same colours are the same.

* `computeFrame_of_painted` — a frame, from the colours of its LEDs.
* `computeFrame_recurs` — a frame that comes back.
-/

namespace LedStudio

variable {ref : PatternRef} {n frame later : Int} {brightness : Value}

/-- A frame is computed if each LED has a colour whatever the random numbers. -/
theorem computeFrame_of_painted (hn : 1 ≤ n) (hframe : 0 ≤ frame) {leds : List Color}
    (hlength : leds.length = n.toNat)
    (h : ∀ (i : Nat) (hi : i < leds.length) (x : Double),
      (paint ref.resolve i frame n x).bind (·.withBrightness brightness) = .ok leds[i])
    (stream : Stream) :
    (computeFrame ref (.int n) frame brightness stream).leds = .ok leds := by
  have hmax : max 1 n = n := by omega
  rw [computeFrame_ok_iff (by omega) hframe, hmax]
  exact ⟨hlength, fun i hi => h i hi _⟩

theorem ledsFrom_recurs {pattern : Option PatternId} {count : Int}
    (h : ∀ i x, paint pattern i later count x = paint pattern i frame count x)
    (left : Nat) (i : Int) (done : List Color) (stream : Stream) :
    ledsFrom pattern later count brightness left i done stream =
      ledsFrom pattern frame count brightness left i done stream := by
  induction left generalizing i done stream with
  | zero => rfl
  | succ left ih =>
    have hlit : lit pattern later count brightness stream i =
        lit pattern frame count brightness stream i := by
      simp only [lit, ledColor, h i stream.head]
    simp only [ledsFrom_succ, hlit, ih]

/-- **A frame comes back** when its rule gives the same colours again. -/
theorem computeFrame_recurs (hn : 1 ≤ n) (hframe : 0 ≤ frame) (hlater : 0 ≤ later)
    (h : ∀ i x, paint ref.resolve i later n x = paint ref.resolve i frame n x)
    (brightness : Value) (stream : Stream) :
    computeFrame ref (.int n) later brightness stream =
      computeFrame ref (.int n) frame brightness stream := by
  have hmax : max 1 n = n := by omega
  simp only [computeFrame, frameSize_nonneg (n := n) (by omega) hframe,
    frameSize_nonneg (n := n) (by omega) hlater, hmax, ledsFrom_recurs h]

end LedStudio
