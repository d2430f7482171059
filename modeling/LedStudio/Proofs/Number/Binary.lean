import LedStudio.Proofs.Number.Exact

/-!
# The numbers that doubles stand for

A double has 53 binary digits: it stands for an integer of that size times a power of two, and the
power has bounds. Rounding leads to such numbers only, and leaves them where they are.

* `le_nearest`, `nearest_le`, `nearest_lt` — rounding stops at a number with as few places.
* `isBinary64_of_ofRat`, `IsBinary64.ofRat_eq` — what rounding leads to, and where it stops.
* `IsBinary64.multiple`, `IsBinary64.whole` — the places of a number; a large one is an integer.
* `IsBinary64.quotient_eq`, `IsBinary64.mul_eq` — operations whose exact result is a double.
-/

namespace LedStudio

/-! ## To the nearest integer -/

theorem roundHalfEven_of_lt_half {k : Int} {y : Rat} (hlow : (k : Rat) ≤ y)
    (hhigh : y < k + 1 / 2) : roundHalfEven y = k := by
  have hfloor : y.floor = k := by
    have hle : k ≤ y.floor := Rat.le_floor_iff.mpr hlow
    have hlt : y.floor < k + 1 := by
      rw [Rat.floor_lt_iff]
      push_cast
      linarith
    omega
  have hrest : y - (k : Rat) < mkRat 1 2 := by
    rw [Rat.mkRat_eq_div]
    push_cast
    linarith
  simp only [roundHalfEven, hfloor, if_pos hrest]

theorem roundHalfEven_half (k : Int) :
    roundHalfEven (k + 1 / 2) = if k % 2 = 0 then k else k + 1 := by
  have hfloor : ((k : Rat) + 1 / 2).floor = k := by
    have hle : k ≤ ((k : Rat) + 1 / 2).floor := by
      rw [Rat.le_floor_iff]
      linarith
    have hlt : ((k : Rat) + 1 / 2).floor < k + 1 := by
      rw [Rat.floor_lt_iff]
      push_cast
      linarith
    omega
  have hrest : (k : Rat) + 1 / 2 - k = mkRat 1 2 := by
    rw [Rat.mkRat_eq_div]
    push_cast
    ring
  simp only [roundHalfEven, hfloor, hrest, lt_irrefl, if_false]

/-- More than a half below an integer, rounding stays below it. -/
theorem roundHalfEven_lt {m : Int} {y : Rat} (h : y < m - 1 / 2) : roundHalfEven y < m := by
  by_cases hlow : y < (m : Rat) - 1
  · have hle : roundHalfEven y ≤ m - 1 := by
      apply roundHalfEven_le
      push_cast
      linarith
    omega
  · have heq : roundHalfEven y = m - 1 := by
      apply roundHalfEven_of_lt_half
      · push_cast
        linarith
      · push_cast
        linarith
    omega

/-- Rounding does not lead past an integer and its negative from inside. -/
theorem abs_roundHalfEven_le {m : Int} {y : Rat} (h : |y| ≤ m) : |roundHalfEven y| ≤ m := by
  rw [abs_le] at h ⊢
  constructor
  · apply le_roundHalfEven
    push_cast
    exact h.1
  · exact roundHalfEven_le h.2

/-- Nor does it from outside. -/
theorem le_abs_roundHalfEven {m : Int} {y : Rat} (h : (m : Rat) ≤ |y|) : m ≤ |roundHalfEven y| := by
  rw [le_abs] at h ⊢
  rcases h with hpos | hneg
  · exact .inl (le_roundHalfEven hpos)
  · have hround : roundHalfEven y ≤ -m := by
      apply roundHalfEven_le
      push_cast
      linarith
    exact .inr (by omega)

namespace Double

variable {q : Rat}

/-! ## To the nearest number with the places of a double -/

/-- The number that `q` is rounded to, if it is not too large. -/
def nearest (q : Rat) : Rat := roundHalfEven (q / 2 ^ lastPlace q) * 2 ^ lastPlace q

theorem ofRat_eq (hq : q ≠ 0) : ofRat q =
    if 2 ^ 1024 ≤ |nearest q| then .infinite (decide (q < 0))
    else if nearest q = 0 ∧ q < 0 then .negZero
    else .finite (nearest q) := by
  have hlimit : twoPow 1024 = 2 ^ 1024 := by
    rw [twoPow_eq_zpow]
    rfl
  simp only [ofRat, if_neg hq, rat_abs_eq, hlimit, twoPow_eq_zpow, nearest]
  rfl

theorem ofRat_of_pos (hq : 0 < q) (h : |nearest q| < 2 ^ 1024) : ofRat q = .finite (nearest q) := by
  have hneg : ¬(nearest q = 0 ∧ q < 0) := fun hboth => absurd hboth.2 (not_lt.mpr hq.le)
  rw [ofRat_eq hq.ne', if_neg (not_le.mpr h), if_neg hneg]

/-- A number in units of the last place. -/
theorem div_unit_eq {m e : Int} (he : lastPlace q ≤ e) :
    ∃ k : Int, (m * 2 ^ e / 2 ^ lastPlace q : Rat) = k := by
  obtain ⟨k, hk⟩ := two_zpow_multiple he
  refine ⟨m * k, ?_⟩
  rw [hk, div_eq_iff (two_zpow_pos _).ne']
  push_cast
  ring

section

variable {m e : Int} (he : lastPlace q ≤ e)
include he

theorem le_nearest (h : (m * 2 ^ e : Rat) ≤ q) : (m * 2 ^ e : Rat) ≤ nearest q := by
  obtain ⟨k, hk⟩ := div_unit_eq (q := q) (m := m) he
  have hunit := two_zpow_pos (lastPlace q)
  have hround : k ≤ roundHalfEven (q / 2 ^ lastPlace q) := by
    apply le_roundHalfEven
    rw [← hk]
    exact div_le_div_of_nonneg_right h hunit.le
  rw [div_eq_iff hunit.ne'] at hk
  rw [hk, nearest]
  exact mul_le_mul_of_nonneg_right (by exact_mod_cast hround) hunit.le

theorem nearest_le (h : q ≤ m * 2 ^ e) : nearest q ≤ m * 2 ^ e := by
  obtain ⟨k, hk⟩ := div_unit_eq (q := q) (m := m) he
  have hunit := two_zpow_pos (lastPlace q)
  have hround : roundHalfEven (q / 2 ^ lastPlace q) ≤ k := by
    apply roundHalfEven_le
    rw [← hk]
    exact div_le_div_of_nonneg_right h hunit.le
  rw [div_eq_iff hunit.ne'] at hk
  rw [hk, nearest]
  exact mul_le_mul_of_nonneg_right (by exact_mod_cast hround) hunit.le

/-- More than half a unit below such a number, rounding stays below it. -/
theorem nearest_lt (h : q < m * 2 ^ e - 2 ^ lastPlace q / 2) : nearest q < m * 2 ^ e := by
  obtain ⟨k, hk⟩ := div_unit_eq (q := q) (m := m) he
  have hunit := two_zpow_pos (lastPlace q)
  rw [div_eq_iff hunit.ne'] at hk
  have hround : roundHalfEven (q / 2 ^ lastPlace q) < k := by
    apply roundHalfEven_lt
    rw [div_lt_iff₀ hunit]
    rw [hk] at h
    linarith
  rw [hk, nearest]
  exact mul_lt_mul_of_pos_right (by exact_mod_cast hround) hunit

end

/-! ## The numbers -/

/-- An integer of 53 binary digits, times a power of two that a double has. -/
def IsBinary64 (q : Rat) : Prop :=
  ∃ m e : Int, |m| < 2 ^ 53 ∧ -1074 ≤ e ∧ e ≤ 971 ∧ q = m * 2 ^ e

theorem IsBinary64.neg (h : IsBinary64 q) : IsBinary64 (-q) := by
  obtain ⟨m, e, hm, hlow, hhigh, rfl⟩ := h
  refine ⟨-m, e, ?_, hlow, hhigh, ?_⟩
  · rwa [abs_neg]
  · push_cast
    ring

/-- The only integers of one digit more end in a zero, which the power of two takes. -/
theorem isBinary64_mul {m e : Int} (hm : |m| ≤ 2 ^ 53) (hlow : -1074 ≤ e) (hhigh : e ≤ 971)
    (hlast : |m| = 2 ^ 53 → e ≤ 970) : IsBinary64 (m * 2 ^ e) := by
  obtain hlt | heq := hm.lt_or_eq
  · exact ⟨m, e, hlt, hlow, hhigh, rfl⟩
  · have he := hlast heq
    have hpow : (2 : Rat) ^ (e + 1) = 2 ^ e * 2 := zpow_add_one₀ (by norm_num) e
    obtain rfl | rfl : m = 2 ^ 53 ∨ m = -2 ^ 53 := by
      rcases abs_cases m with hm | hm <;> omega
    · refine ⟨2 ^ 52, e + 1, by norm_num, by omega, by omega, ?_⟩
      rw [hpow]
      push_cast
      ring
    · refine ⟨-2 ^ 52, e + 1, by norm_num, by omega, by omega, ?_⟩
      rw [hpow]
      push_cast
      ring

theorem isBinary64_intCast {m : Int} (h : |m| ≤ 2 ^ 53) : IsBinary64 m := by
  have hmul := isBinary64_mul (e := 0) h (by omega) (by omega) (by omega)
  rwa [zpow_zero, mul_one] at hmul

theorem IsBinary64.abs_lt (h : IsBinary64 q) : |q| < 2 ^ 1024 := by
  obtain ⟨m, e, hm, -, hhigh, rfl⟩ := h
  have hm' : |(m : Rat)| < 2 ^ 53 := by exact_mod_cast hm
  have hpow : (2 : Rat) ^ e ≤ 2 ^ (971 : Int) := two_zpow_le_iff.mpr hhigh
  calc |(m : Rat) * 2 ^ e| = |(m : Rat)| * 2 ^ e := by rw [abs_mul, abs_of_pos (two_zpow_pos e)]
    _ < 2 ^ 53 * 2 ^ e := mul_lt_mul_of_pos_right hm' (two_zpow_pos e)
    _ ≤ 2 ^ 53 * 2 ^ (971 : Int) := mul_le_mul_of_nonneg_left hpow (by norm_num)
    _ = 2 ^ 1024 := by
      rw [← zpow_natCast, ← zpow_natCast, ← zpow_add₀ (by norm_num)]
      norm_num

/-- The last place of a double is the one of its number. -/
theorem IsBinary64.multiple (h : IsBinary64 q) (hq : q ≠ 0) :
    ∃ k : Int, q = k * 2 ^ lastPlace q := by
  obtain ⟨m, e, hm, hlow, -, rfl⟩ := h
  have hm' : |(m : Rat)| < 2 ^ 53 := by exact_mod_cast hm
  have hexponent : binaryExponent (m * 2 ^ e) < 53 + e := by
    rw [← two_zpow_lt_iff]
    calc (2 : Rat) ^ binaryExponent (m * 2 ^ e) ≤ |(m : Rat) * 2 ^ e| := (binaryExponent_spec hq).1
      _ = |(m : Rat)| * 2 ^ e := by rw [abs_mul, abs_of_pos (two_zpow_pos e)]
      _ < 2 ^ 53 * 2 ^ e := mul_lt_mul_of_pos_right hm' (two_zpow_pos e)
      _ = 2 ^ (53 + e) := by
        rw [zpow_add₀ (by norm_num)]
        norm_num
  have hplace : lastPlace (m * 2 ^ e) ≤ e := by
    unfold lastPlace
    omega
  obtain ⟨k, hk⟩ := two_zpow_multiple hplace
  refine ⟨m * k, ?_⟩
  push_cast
  rw [mul_assoc, ← hk]

/-- Below a number with as few places there is room for one more in the last place. -/
theorem IsBinary64.add_unit_le (h : IsBinary64 q) (hq : q ≠ 0) {m e : Int} (he : lastPlace q ≤ e)
    (hlt : q < m * 2 ^ e) : q + 2 ^ lastPlace q ≤ m * 2 ^ e := by
  obtain ⟨k, hk⟩ := h.multiple hq
  obtain ⟨j, hj⟩ := div_unit_eq (q := q) (m := m) he
  have hunit := two_zpow_pos (lastPlace q)
  rw [div_eq_iff hunit.ne'] at hj
  have hkj : k < j := by
    rw [hj] at hlt
    nth_rewrite 1 [hk] at hlt
    exact_mod_cast lt_of_mul_lt_mul_right hlt hunit.le
  have hle : (k : Rat) + 1 ≤ j := by exact_mod_cast hkj
  calc q + 2 ^ lastPlace q = (k + 1) * 2 ^ lastPlace q := by
        nth_rewrite 1 [hk]
        ring
    _ ≤ j * 2 ^ lastPlace q := mul_le_mul_of_nonneg_right hle hunit.le
    _ = m * 2 ^ e := hj.symm

/-- **Rounding leaves the number of a double where it is.** -/
theorem IsBinary64.ofRat_eq (h : IsBinary64 q) : ofRat q = .finite q := by
  by_cases hq : q = 0
  · rw [hq]
    rfl
  · obtain ⟨k, hk⟩ := h.multiple hq
    have hnearest : nearest q = q := by
      have hdiv : q / 2 ^ lastPlace q = k := by
        rw [div_eq_iff (two_zpow_pos _).ne']
        exact hk
      rw [nearest, hdiv, roundHalfEven_intCast]
      exact hk.symm
    rw [Double.ofRat_eq hq, hnearest, if_neg (not_le.mpr h.abs_lt), if_neg fun hboth => hq hboth.1]

/-- A number has 53 digits before its last place, and no fewer above the least place. -/
theorem digits_of_lastPlace (hq : q ≠ 0) : |q| < 2 ^ 53 * 2 ^ lastPlace q ∧
    (-1074 < lastPlace q → 2 ^ 52 * 2 ^ lastPlace q ≤ |q|) := by
  obtain ⟨hlow, hhigh⟩ := binaryExponent_spec hq
  have hplaces (k : Nat) : (2 : Rat) ^ k * 2 ^ lastPlace q = 2 ^ (k + lastPlace q) := by
    rw [zpow_add₀ (by norm_num), zpow_natCast]
  rw [hplaces, hplaces]
  constructor
  · refine hhigh.trans_le (two_zpow_le_iff.mpr ?_)
    unfold lastPlace
    omega
  · intro hplace
    refine (two_zpow_le_iff.mpr ?_).trans hlow
    unfold lastPlace at hplace ⊢
    omega

/-- **Rounding leads to the number of a double.** -/
theorem isBinary64_of_ofRat {r : Rat} (h : ofRat q = .finite r) : IsBinary64 r := by
  by_cases hq : q = 0
  · rw [hq] at h
    obtain rfl : 0 = r := Double.finite.inj h
    exact ⟨0, 0, by norm_num, by norm_num, by norm_num, by norm_num⟩
  rw [Double.ofRat_eq hq] at h
  split at h
  · cases h
  · next hlimit =>
    split at h
    · cases h
    · obtain rfl := Double.finite.inj h
      obtain ⟨hhigh, hlow⟩ := digits_of_lastPlace hq
      have hunit := two_zpow_pos (lastPlace q)
      have hleast : -1074 ≤ lastPlace q := Int.le_max_right _ _
      have hscaled : |q / 2 ^ lastPlace q| * 2 ^ lastPlace q = |q| := by
        rw [abs_div, abs_of_pos hunit, div_mul_cancel₀ _ hunit.ne']
      rw [← hscaled] at hhigh hlow
      rw [not_le, nearest, abs_mul, abs_of_pos hunit] at hlimit
      unfold nearest
      generalize hdigits : roundHalfEven (q / 2 ^ lastPlace q) = digits at hlimit ⊢
      have hmax : |digits| ≤ 2 ^ 53 := by
        rw [← hdigits]
        apply abs_roundHalfEven_le
        push_cast
        exact (lt_of_mul_lt_mul_right hhigh hunit.le).le
      -- One digit more would take a number with this last place beyond the limit.
      have hplace {k : Nat} (hk : (2 : Rat) ^ k ≤ |(digits : Rat)|) : k + lastPlace q < 1024 := by
        rw [← two_zpow_lt_iff, zpow_add₀ (by norm_num), zpow_natCast]
        calc (2 : Rat) ^ k * 2 ^ lastPlace q ≤ |(digits : Rat)| * 2 ^ lastPlace q :=
              mul_le_mul_of_nonneg_right hk hunit.le
          _ < 2 ^ 1024 := hlimit
      refine isBinary64_mul hmax hleast ?_ fun heq => ?_
      · by_cases hsub : lastPlace q = -1074
        · omega
        · have hdigit : (2 : Int) ^ 52 ≤ |digits| := by
            rw [← hdigits]
            apply le_abs_roundHalfEven
            push_cast
            exact le_of_mul_le_mul_right (hlow (by omega)) hunit
          have hbound := hplace (k := 52) (by exact_mod_cast hdigit)
          omega
      · have hbound := hplace (k := 53) (by exact_mod_cast heq.ge)
        omega

/-- **A large number of a double is an integer.** -/
theorem IsBinary64.whole (h : IsBinary64 q) (hq : 2 ^ 52 ≤ |q|) : ∃ k : Int, q = k := by
  have hne : q ≠ 0 := by
    rintro rfl
    norm_num at hq
  obtain ⟨k, hk⟩ := h.multiple hne
  have hexponent : 52 ≤ binaryExponent q := by
    have hlt : (2 : Rat) ^ (52 : Int) < 2 ^ (binaryExponent q + 1) :=
      lt_of_le_of_lt hq (binaryExponent_spec hne).2
    rw [two_zpow_lt_iff] at hlt
    omega
  obtain ⟨j, hj⟩ := two_zpow_multiple (d := 0) (e := lastPlace q) (by unfold lastPlace; omega)
  refine ⟨k * j, ?_⟩
  rw [hk, hj]
  push_cast
  ring

/-! ## Operations that do not round -/

namespace IsBinary64

variable {p : Rat}

theorem ofInt_eq {n : Int} (h : IsBinary64 n) : ofInt n = .ok (.finite n) := by
  simp only [ofInt, h.ofRat_eq]

theorem quotient_eq {a b : Int} (hb : 0 < b) (h : IsBinary64 ((a : Rat) / b)) :
    quotient a b = .ok (.finite ((a : Rat) / b)) := by
  by_cases ha : a = 0
  · simp [quotient, ha, hb.ne', hb.not_gt, zero]
  · simp only [quotient, if_neg hb.ne', if_neg ha, h.ofRat_eq]

theorem add_eq (h : IsBinary64 (p + q)) : (finite p).add (finite q) = .finite (p + q) :=
  h.ofRat_eq

theorem mul_eq (hp : 0 ≤ p) (hq : 0 ≤ q) (h : IsBinary64 (p * q)) :
    (finite p).mul (finite q) = .finite (p * q) := by
  by_cases hzero : p * q = 0
  · simp [mul, mulFinite, rational?, isNegative, zero, hzero, not_lt.mpr hp, not_lt.mpr hq]
  · simp only [mul, mulFinite, rational?, Option.getD_some, if_neg hzero, h.ofRat_eq]

end IsBinary64

end Double
end LedStudio
