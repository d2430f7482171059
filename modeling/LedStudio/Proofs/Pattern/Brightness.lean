import LedStudio.Color
import LedStudio.Proofs.Number.Exact

/-!
# Brightness

A colour can be shown at every brightness that is a number. At a hundred percent, and at all that is
clamped to it, it is shown as it is.

* `withBrightness_ok` — no number fails.
* `withBrightness_full` — full brightness changes no colour.
-/

namespace LedStudio

/-- A number from a hundred on, or one that is on neither side of a hundred. -/
def Value.IsFull (brightness : Value) : Prop :=
  ∃ b, brightness.number? = some b ∧ b.isBelow 100 = false

theorem Value.isFull_hundred : (Value.int 100).IsFull := ⟨.int 100, rfl, by decide +kernel⟩

namespace Color

/-- The factor of a brightness is a small number. -/
theorem brightnessFactor_within (b : Number) :
    ∃ factor, brightnessFactor b = .ok factor ∧ Double.Within 2 factor := by
  unfold brightnessFactor
  split
  · exact ⟨_, rfl, Double.within_finite (by norm_num) (by norm_num)⟩
  next hbelow =>
  split
  · exact ⟨_, rfl, Double.within_finite (by norm_num) (by norm_num)⟩
  next habove =>
  simp only [Bool.not_eq_true', Bool.not_eq_false] at hbelow habove
  cases b with
  | int n =>
    have hlow : (0 : Rat) < n := of_decide_eq_true habove
    have hhigh : (n : Rat) < 100 := of_decide_eq_true hbelow
    have hdiv : (n : Rat) / ((100 : Int) : Rat) ≤ 1 := by
      rw [div_le_one (by norm_num)]
      push_cast
      linarith
    have hpos : (0 : Rat) ≤ (n : Rat) / ((100 : Int) : Rat) := by positivity
    obtain ⟨x, hx, hwithin⟩ := Double.quotient_within (n := n) (d := 100) (b := 1) (by decide)
      (by norm_num) (by linarith) hdiv
    exact ⟨x, hx, hwithin.mono (by norm_num)⟩
  | float x =>
    cases x with
    | finite q =>
      have hlow : 0 < q := of_decide_eq_true habove
      have hhigh : q < 100 := of_decide_eq_true hbelow
      have hdiv : q / 100 ≤ 1 := by
        rw [div_le_one (by norm_num)]
        exact hhigh.le
      have hpos : 0 ≤ q / 100 := by positivity
      have hwithin := Double.ofRat_within (b := 1) (by norm_num) (by linarith) hdiv
      refine ⟨_, rfl, (?_ : Double.Within 2 _)⟩
      simp only [Double.divRat, Double.rational?, Option.getD_some, hlow.ne', if_false]
      exact hwithin.mono (by norm_num)
    | negZero => cases habove
    | infinite negative =>
      cases negative
      · cases hbelow
      · cases habove
    | nan => cases hbelow

theorem channel_le (channel : UInt8) : channel.toNat ≤ 255 := by
  have hlt := channel.toNat_lt
  omega

theorem scaleChannel_ok (channel : UInt8) {factor : Double} (h : Double.Within 2 factor) :
    ∃ scaled, scaleChannel (.int channel.toNat) factor = .ok scaled := by
  have hsize : ((channel.toNat : Int) : Rat) ≤ 255 := by exact_mod_cast channel_le channel
  have hpos : (0 : Rat) ≤ ((channel.toNat : Int) : Rat) := by positivity
  obtain ⟨x, hx, hwithin⟩ := Double.ofInt_within (n := channel.toNat) (b := 255) (by norm_num)
    (by linarith) hsize
  obtain ⟨k, hk⟩ := (hwithin.mul h (by norm_num)).roundHalfAway (by norm_num)
  refine ⟨clampChannel k, ?_⟩
  simp only [scaleChannel, Number.toDouble, hx, bind, Except.bind, Double.channel, hk, Except.map]

/-- A colour can be shown at every brightness that is a number. -/
theorem withBrightness_ok (c : Color) {brightness : Value} {b : Number}
    (hb : brightness.number? = some b) : ∃ d, c.withBrightness brightness = .ok d := by
  obtain ⟨factor, hfactor, hwithin⟩ := brightnessFactor_within b
  obtain ⟨red, hred⟩ := scaleChannel_ok c.red hwithin
  obtain ⟨green, hgreen⟩ := scaleChannel_ok c.green hwithin
  obtain ⟨blue, hblue⟩ := scaleChannel_ok c.blue hwithin
  refine ⟨⟨red, green, blue⟩, ?_⟩
  simp only [withBrightness, brightnessFactorOf, hb, hfactor, hred, hgreen, hblue, bind, Except.bind]
  rfl

/-! ## Full brightness -/

theorem clampChannel_toNat (channel : UInt8) : clampChannel channel.toNat = channel := by
  have hlt := channel_le channel
  have hclamp : (max 0 (min 255 (channel.toNat : Int))).toNat = channel.toNat := by omega
  rw [clampChannel, hclamp, UInt8.ofNat_toNat]

theorem mul_one_natCast {n : Nat} (h : n ≤ 2 ^ 50) :
    (Double.finite (n : Rat)).mul .one = .finite n := by
  have hpos : ¬(n : Rat) < 0 := not_lt.mpr (Nat.cast_nonneg n)
  have hnot : ¬(1 : Rat) < 0 := by decide
  have hround := Double.ofRat_intCast (m := n) (by omega) (by omega)
  rw [Int.cast_natCast] at hround
  simp only [Double.mul, Double.one, Double.isNegative, hpos, hnot, decide_false, bne_self_eq_false,
    Double.rational?, Option.getD_some, Double.mulFinite, mul_one, hround]
  split
  · next hzero =>
    rw [hzero]
    rfl
  · rfl

/-- A channel times one is what it was. -/
theorem scaleChannel_one (channel : UInt8) :
    scaleChannel (.int channel.toNat) .one = .ok channel := by
  have hlt := channel_le channel
  have hmul := mul_one_natCast (n := channel.toNat) (by omega)
  have hround := Double.roundHalfAway_natCast (n := channel.toNat) (by omega)
  have hint := Double.ofInt_eq (m := channel.toNat) (by omega) (by omega)
  rw [Int.cast_natCast] at hint
  simp only [scaleChannel, Number.toDouble, hint, bind, Except.bind, hmul, Double.channel, hround,
    Except.map, clampChannel_toNat]

/-- Full brightness shows a colour as it is. -/
theorem withBrightness_full (c : Color) {brightness : Value} (h : brightness.IsFull) :
    c.withBrightness brightness = .ok c := by
  obtain ⟨b, hb, hbelow⟩ := h
  simp only [withBrightness, brightnessFactorOf, hb, brightnessFactor, hbelow, Bool.not_false,
    if_true, scaleChannel_one, bind, Except.bind]
  rfl

end Color
end LedStudio
