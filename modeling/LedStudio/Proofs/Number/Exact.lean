import Mathlib.Tactic.Ring
import LedStudio.Proofs.Number.Double

/-!
# What rounding keeps

A sum or product of doubles is rounded, but not every one is moved by it: integers and halves of
moderate size are doubles themselves, and no rounding leads past an integer.

* `ofRat_rounded` — rounding in the binary places that a double has.
* `ofRat_half`, `roundHalfAway_natCast` — halves and integers stay what they are.
* `ofRat_between` — rounding keeps to one side of each integer.
-/

namespace LedStudio

theorem twoPow_neg (k : Nat) : twoPow (-k) = ((2 : Rat) ^ k)⁻¹ := by
  rw [twoPow_eq_zpow, zpow_neg, zpow_natCast]

namespace Double

variable {q : Rat}

/-- A number up to `2^52` is rounded to some binary places; the smaller its bound, the more. -/
theorem ofRat_rounded {k : Nat} (hk : k ≤ 52) (hlow : -2 ^ k ≤ q) (hhigh : q ≤ 2 ^ k)
    (hq : q ≠ 0) : ∃ places : Nat, 52 - k ≤ places ∧
      let rounded := (roundHalfEven (q * 2 ^ places) : Rat) / 2 ^ places
      ofRat q = if rounded = 0 ∧ q < 0 then .negZero else .finite rounded := by
  have hplace : lastPlace q ≤ -(52 - k : Nat) :=
    lastPlace_le hq hlow hhigh (by omega) (by omega)
  obtain ⟨places, hplaces⟩ : ∃ places : Nat, lastPlace q = -places :=
    ⟨(-lastPlace q).toNat, by omega⟩
  refine ⟨places, by omega, ?_⟩
  intro rounded
  have hpow : (0 : Rat) < 2 ^ places := by positivity
  have hsize : (2 : Rat) ^ k ≤ 2 ^ 52 := pow_le_pow_right₀ (by norm_num) hk
  have hmin : (-2 ^ 52 : Rat) ≤ rounded := by
    have hbound : ((-(2 ^ 52 * 2 ^ places) : Int) : Rat) ≤ q * 2 ^ places := by
      push_cast
      nlinarith
    rw [le_div_iff₀ hpow]
    have hround := Int.cast_le (R := Rat).mpr (le_roundHalfEven hbound)
    push_cast at hround
    linarith
  have hmax : rounded ≤ 2 ^ 52 := by
    have hbound : q * 2 ^ places ≤ ((2 ^ 52 * 2 ^ places : Int) : Rat) := by
      push_cast
      nlinarith
    rw [div_le_iff₀ hpow]
    have hround := Int.cast_le (R := Rat).mpr (roundHalfEven_le hbound)
    push_cast at hround
    linarith
  have hfits : ¬twoPow 1024 ≤ rounded.abs := by
    have hlarge : (2 ^ 53 : Rat) ≤ twoPow 1024 := by decide +kernel
    unfold Rat.abs
    split <;> linarith
  have hnearest : (roundHalfEven (q / twoPow (lastPlace q)) : Rat) * twoPow (lastPlace q) =
      rounded := by
    rw [hplaces, twoPow_neg, div_inv_eq_mul, ← div_eq_mul_inv]
  simp only [ofRat, if_neg hq, hnearest, if_neg hfits]

/-- An integer, or half of an odd one, is a double. -/
theorem ofRat_half {m : Int} (hlow : -2 ^ 51 ≤ (m : Rat) / 2) (hhigh : (m : Rat) / 2 ≤ 2 ^ 51) :
    ofRat (m / 2) = .finite (m / 2) := by
  by_cases hzero : (m : Rat) / 2 = 0
  · rw [hzero]
    rfl
  · obtain ⟨places, hone, hround⟩ := ofRat_rounded (k := 51) (by decide) hlow hhigh hzero
    obtain ⟨k, rfl⟩ : ∃ k, places = k + 1 := ⟨places - 1, by omega⟩
    have hpow : (2 : Rat) ^ (k + 1) ≠ 0 := by positivity
    have hwhole : (m : Rat) / 2 * 2 ^ (k + 1) = ((m * 2 ^ k : Int) : Rat) := by
      push_cast
      ring
    rw [hwhole, roundHalfEven_intCast, ← hwhole, mul_div_cancel_right₀ _ hpow] at hround
    simp only [hround, hzero, false_and, if_false]

/-- **No rounding leads past an integer.** -/
theorem ofRat_between (hlow : -2 ^ 52 ≤ q) (hhigh : q ≤ 2 ^ 52) :
    ∃ r, (ofRat q).rational? = some r ∧
      ∀ m : Int, ((m : Rat) ≤ q → (m : Rat) ≤ r) ∧ (q ≤ m → r ≤ m) := by
  by_cases hzero : q = 0
  · exact ⟨0, by rw [hzero]; rfl, fun m => by rw [hzero]; exact ⟨id, id⟩⟩
  · obtain ⟨places, -, hround⟩ := ofRat_rounded (k := 52) (le_refl 52) hlow hhigh hzero
    refine ⟨(roundHalfEven (q * 2 ^ places) : Rat) / 2 ^ places, ?_, fun m => ?_⟩
    · rw [hround]
      split
      · next h => rw [h.1]; rfl
      · rfl
    · have hpow : (0 : Rat) < 2 ^ places := by positivity
      have hcast : ((m * 2 ^ places : Int) : Rat) = m * 2 ^ places := by push_cast; rfl
      constructor
      · intro hm
        have hbound : ((m * 2 ^ places : Int) : Rat) ≤ q * 2 ^ places := by
          rw [hcast]
          exact mul_le_mul_of_nonneg_right hm hpow.le
        rw [le_div_iff₀ hpow, ← hcast]
        exact_mod_cast le_roundHalfEven hbound
      · intro hm
        have hbound : q * 2 ^ places ≤ ((m * 2 ^ places : Int) : Rat) := by
          rw [hcast]
          exact mul_le_mul_of_nonneg_right hm hpow.le
        rw [div_le_iff₀ hpow, ← hcast]
        exact_mod_cast roundHalfEven_le hbound

theorem eq_finite_of_rational? {x : Double} (h : x.rational? = some q) (hq : q ≠ 0) :
    x = .finite q := by
  cases x with
  | finite r => exact congrArg _ (Option.some.inj h)
  | negZero => exact absurd (Option.some.inj h).symm hq
  | infinite negative => cases h
  | nan => cases h

/-- A number that is not above zero does not win against zero. -/
theorem max_zero_of_nonpos {x : Double} (h : x.rational? = some q) (hq : q ≤ 0) :
    Double.max (.finite 0) x = .finite 0 := by
  have hlt : Double.lt (.finite 0) x = false := by
    cases x with
    | finite r =>
      obtain rfl := Option.some.inj h
      exact decide_eq_false (not_lt.mpr hq)
    | negZero => rfl
    | infinite negative => cases h
    | nan => cases h
  simp only [Double.max, hlt, Bool.false_eq_true, if_false]

/-! ## Small integers -/

theorem ofRat_intCast {m : Int} (hlow : -2 ^ 50 ≤ m) (hhigh : m ≤ 2 ^ 50) :
    ofRat m = .finite m := by
  have hlow' : (-2 ^ 50 : Rat) ≤ m := by exact_mod_cast hlow
  have hhigh' : (m : Rat) ≤ 2 ^ 50 := by exact_mod_cast hhigh
  have htwice : ((m * 2 : Int) : Rat) / 2 = m := by
    push_cast
    ring
  have hround := ofRat_half (m := m * 2) (by rw [htwice]; linarith) (by rw [htwice]; linarith)
  rwa [htwice] at hround

theorem ofInt_eq {m : Int} (hlow : -2 ^ 50 ≤ m) (hhigh : m ≤ 2 ^ 50) :
    ofInt m = .ok (.finite m) := by
  simp only [ofInt, ofRat_intCast hlow hhigh]

/-- A small integer is nearest to itself. -/
theorem roundHalfAway_natCast {n : Nat} (h : n ≤ 2 ^ 50) :
    (finite (n : Rat)).roundHalfAway = .ok n := by
  have hsum : (n : Rat) + mkRat 1 2 = ((2 * n + 1 : Int) : Rat) / 2 := by
    rw [Rat.mkRat_eq_div]
    push_cast
    ring
  have hsize : (n : Rat) ≤ 2 ^ 50 := by exact_mod_cast h
  have hpos : (0 : Rat) ≤ n := Nat.cast_nonneg n
  have hround : ofRat ((n : Rat) + mkRat 1 2) = .finite ((n : Rat) + mkRat 1 2) := by
    rw [hsum]
    refine ofRat_half ?_ ?_ <;> push_cast <;> linarith
  have hfloor : ((n : Rat) + mkRat 1 2).floor = n := by
    have hlow : (n : Int) ≤ ((n : Rat) + mkRat 1 2).floor := by
      rw [Rat.le_floor_iff, hsum]
      push_cast
      linarith
    have hhigh : ((n : Rat) + mkRat 1 2).floor < n + 1 := by
      rw [Rat.floor_lt_iff, hsum]
      push_cast
      linarith
    omega
  simp only [roundHalfAway, isNonnegative, decide_eq_true hpos, if_true, add, half, hround, floor,
    toIntBy, hfloor]

end Double
end LedStudio
