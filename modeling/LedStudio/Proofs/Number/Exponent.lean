import Mathlib.Algebra.Order.Field.Power
import Mathlib.Algebra.Order.Field.Rat
import Mathlib.Tactic.NormNum
import Mathlib.Tactic.Ring
import LedStudio.Number.Double

/-!
# Exponents

The exponent of a number is that of the greatest power of two which is not above its size. It is
found from the lengths of the numerator and the denominator, which miss it by one at most.

* `twoPow_eq_zpow` — powers of two.
* `binaryExponent_spec`, `binaryExponent_eq_iff` — the exponent of a number.
-/

namespace LedStudio

/-! ## Powers of two -/

theorem twoPow_eq_zpow (e : Int) : twoPow e = (2 : Rat) ^ e := by
  unfold twoPow
  by_cases he : 0 ≤ e
  · obtain ⟨k, rfl⟩ := Int.eq_ofNat_of_zero_le he
    rw [if_pos he, Int.toNat_natCast, zpow_natCast]
    exact Nat.cast_pow 2 k
  · obtain ⟨k, hk⟩ := Int.eq_ofNat_of_zero_le (show 0 ≤ -e by omega)
    have hneg : e = -(k : Int) := by omega
    rw [if_neg he, hk, hneg, zpow_neg, zpow_natCast, Int.toNat_natCast, Rat.mkRat_eq_div,
      Int.cast_one, one_div]
    exact congrArg (·⁻¹) (Nat.cast_pow 2 k)

theorem two_zpow_pos (e : Int) : (0 : Rat) < 2 ^ e := zpow_pos (by norm_num) e

theorem two_zpow_lt_iff {d e : Int} : (2 : Rat) ^ d < 2 ^ e ↔ d < e :=
  zpow_lt_zpow_iff_right₀ (by norm_num)

theorem two_zpow_le_iff {d e : Int} : (2 : Rat) ^ d ≤ 2 ^ e ↔ d ≤ e :=
  zpow_le_zpow_iff_right₀ (by norm_num)

/-- A power of two is a multiple of every smaller one. -/
theorem two_zpow_multiple {d e : Int} (h : d ≤ e) : ∃ k : Int, (2 : Rat) ^ e = k * 2 ^ d := by
  refine ⟨2 ^ (e - d).toNat, ?_⟩
  have hsplit : e = ((e - d).toNat : Int) + d := by omega
  push_cast
  rw [← zpow_natCast, ← zpow_add₀ (by norm_num), ← hsplit]

/-! ## Exponents -/

/-- The lengths of the numerator and the denominator leave two powers of two for the size of a
number. -/
theorem abs_between {q : Rat} (hq : q ≠ 0) :
    let guess : Int := (q.num.natAbs.log2 : Int) - q.den.log2
    (2 : Rat) ^ (guess - 1) < |q| ∧ |q| < 2 ^ (guess + 1) := by
  intro guess
  have hnum : q.num.natAbs ≠ 0 := by
    rw [Int.natAbs_ne_zero]
    exact Rat.num_ne_zero.mpr hq
  have hden : (0 : Rat) < q.den := by exact_mod_cast q.den_pos
  have hsize : |q| = (q.num.natAbs : Rat) / q.den := by
    rw [eq_div_iff hden.ne', Nat.cast_natAbs, Int.cast_abs, ← Rat.mul_den_eq_num q, abs_mul,
      abs_of_pos hden]
  have hnumLow : (2 : Rat) ^ (q.num.natAbs.log2 : Int) ≤ q.num.natAbs := by
    rw [zpow_natCast]
    exact_mod_cast Nat.log2_self_le hnum
  have hnumHigh : (q.num.natAbs : Rat) < 2 ^ ((q.num.natAbs.log2 : Int) + 1) := by
    have hlt : q.num.natAbs < 2 ^ (q.num.natAbs.log2 + 1) := Nat.lt_log2_self
    exact_mod_cast hlt
  have hdenLow : (2 : Rat) ^ (q.den.log2 : Int) ≤ q.den := by
    rw [zpow_natCast]
    exact_mod_cast Nat.log2_self_le q.den_pos.ne'
  have hdenHigh : (q.den : Rat) < 2 ^ ((q.den.log2 : Int) + 1) := by
    have hlt : q.den < 2 ^ (q.den.log2 + 1) := Nat.lt_log2_self
    exact_mod_cast hlt
  rw [hsize]
  constructor
  · rw [lt_div_iff₀ hden]
    calc (2 : Rat) ^ (guess - 1) * q.den
        < 2 ^ (guess - 1) * 2 ^ ((q.den.log2 : Int) + 1) :=
          mul_lt_mul_of_pos_left hdenHigh (two_zpow_pos _)
      _ = 2 ^ (q.num.natAbs.log2 : Int) := by
          rw [← zpow_add₀ (by norm_num)]
          congr 1
          omega
      _ ≤ q.num.natAbs := hnumLow
  · rw [div_lt_iff₀ hden]
    calc (q.num.natAbs : Rat) < 2 ^ ((q.num.natAbs.log2 : Int) + 1) := hnumHigh
      _ = 2 ^ (guess + 1) * 2 ^ (q.den.log2 : Int) := by
          rw [← zpow_add₀ (by norm_num)]
          congr 1
          omega
      _ ≤ 2 ^ (guess + 1) * q.den := mul_le_mul_of_nonneg_left hdenLow (two_zpow_pos _).le

theorem rat_abs_eq (q : Rat) : q.abs = |q| := by
  unfold Rat.abs
  by_cases hq : 0 ≤ q
  · rw [if_pos hq, abs_of_nonneg hq]
  · rw [if_neg hq, abs_of_neg (not_le.mp hq)]

/-- **The size of a number is between the power of two with its exponent and the next one.** -/
theorem binaryExponent_spec {q : Rat} (hq : q ≠ 0) :
    (2 : Rat) ^ binaryExponent q ≤ |q| ∧ |q| < 2 ^ (binaryExponent q + 1) := by
  obtain ⟨hlow, hhigh⟩ := abs_between hq
  unfold binaryExponent
  dsimp only
  rw [rat_abs_eq, twoPow_eq_zpow]
  split
  · next hle => exact ⟨hle, hhigh⟩
  · next hgt => exact ⟨hlow.le, by rw [sub_add_cancel]; exact not_le.mp hgt⟩

theorem binaryExponent_eq_iff {q : Rat} (hq : q ≠ 0) {e : Int} :
    binaryExponent q = e ↔ (2 : Rat) ^ e ≤ |q| ∧ |q| < 2 ^ (e + 1) := by
  obtain ⟨hlow, hhigh⟩ := binaryExponent_spec hq
  constructor
  · rintro rfl
    exact ⟨hlow, hhigh⟩
  · rintro ⟨hlow', hhigh'⟩
    have hle := two_zpow_lt_iff.mp (hlow.trans_lt hhigh')
    have hge := two_zpow_lt_iff.mp (hlow'.trans_lt hhigh)
    omega

/-- A number up to a power of two has an exponent up to that one. -/
theorem binaryExponent_le {q : Rat} {e : Int} (hq : q ≠ 0) (h : |q| ≤ 2 ^ e) :
    binaryExponent q ≤ e :=
  two_zpow_le_iff.mp ((binaryExponent_spec hq).1.trans h)

end LedStudio
