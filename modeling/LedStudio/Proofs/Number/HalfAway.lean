import LedStudio.Color
import LedStudio.Proofs.Number.Binary
import LedStudio.Proofs.Outcome

/-!
# Rounding by adding a half

A number is rounded to an integer by adding a half to its size and dropping the fraction. The sum is
rounded as well, and that leads past the integer for two kinds of numbers: the greatest double below
a half, whose sum becomes one, and the odd integers of 53 digits, whose sums are ties that go to an
even neighbour. All other doubles are rounded as they should be.

* `isNearestAway_iff` — the nearest integer, a half away from zero.
* `exists_sum` — the sum with a half, and the integer below it.
* `half_away_exact` — which numbers are rounded to the nearest integer, and the channels of all.
-/

namespace LedStudio

/-! ## The nearest integer -/

/-- No integer is nearer to the number, and of two that are as near this is the one farther from
zero. -/
def IsNearestAway (q : Rat) (n : Int) : Prop :=
  ∀ m : Int, |q - n| ≤ |q - m| ∧ (|q - m| = |q - n| → |m| ≤ |n|)

/-- The integer below the sum of a half and the size of a number, with the sign of the number. -/
def nearestAway (q : Rat) : Int :=
  if 0 ≤ q then (q + 1 / 2).floor else -(-q + 1 / 2).floor

variable {q : Rat}

theorem floor_eq_iff {k : Int} : q.floor = k ↔ (k : Rat) ≤ q ∧ q < k + 1 := by
  have hlow : k ≤ q.floor ↔ (k : Rat) ≤ q := Rat.le_floor_iff
  have hhigh : q.floor < k + 1 ↔ q < ((k + 1 : Int) : Rat) := Rat.floor_lt_iff
  push_cast at hhigh
  rw [← hlow, ← hhigh]
  omega

theorem IsNearestAway.neg {n : Int} (h : IsNearestAway q n) : IsNearestAway (-q) (-n) := by
  have hmirror (k : Int) : |-q - ((-k : Int) : Rat)| = |q - k| := by
    rw [← abs_neg]
    congr 1
    push_cast
    ring
  intro m
  obtain ⟨hnear, haway⟩ := h (-m)
  have hm := hmirror (-m)
  rw [neg_neg] at hm
  rw [hmirror, hm]
  refine ⟨hnear, fun heq => ?_⟩
  have hle := haway heq
  rwa [abs_neg] at hle ⊢

/-- A number that is not below zero. -/
theorem isNearestAway_floor (hq : 0 ≤ q) : IsNearestAway q (q + 1 / 2).floor := by
  obtain ⟨hlow, hhigh⟩ := floor_eq_iff.mp (rfl : (q + 1 / 2).floor = (q + 1 / 2).floor)
  have hnonneg : 0 ≤ (q + 1 / 2).floor := by
    rw [Rat.le_floor_iff]
    push_cast
    linarith
  generalize (q + 1 / 2).floor = k at hlow hhigh hnonneg ⊢
  have hnear : |q - k| ≤ 1 / 2 := abs_le.mpr ⟨by linarith, by linarith⟩
  intro m
  rcases lt_trichotomy m k with hbelow | rfl | habove
  · have hm : (m : Rat) ≤ k - 1 := by exact_mod_cast Int.le_sub_one_of_lt hbelow
    have hfar : 1 / 2 ≤ q - m := by linarith
    rw [abs_of_nonneg (show 0 ≤ q - m by linarith)]
    refine ⟨hnear.trans hfar, fun htie => ?_⟩
    -- As far away as `k`, this is not below zero.
    have hzero : (-1 : Rat) < m := by linarith
    have hzero' : -1 < m := by exact_mod_cast hzero
    rw [abs_of_nonneg (by omega), abs_of_nonneg hnonneg]
    exact hbelow.le
  · exact ⟨le_refl _, fun _ => le_refl _⟩
  · have hm : (k : Rat) + 1 ≤ m := by exact_mod_cast habove
    have hfar : 1 / 2 < |q - m| := by
      rw [abs_of_nonpos (by linarith)]
      linarith
    exact ⟨hnear.trans hfar.le, fun htie => by linarith⟩

theorem isNearestAway_nearestAway (q : Rat) : IsNearestAway q (nearestAway q) := by
  unfold nearestAway
  by_cases hq : 0 ≤ q
  · rw [if_pos hq]
    exact isNearestAway_floor hq
  · rw [if_neg hq]
    have hneg := (isNearestAway_floor (q := -q) (by linarith)).neg
    rwa [neg_neg] at hneg

theorem IsNearestAway.unique {n k : Int} (hn : IsNearestAway q n) (hk : IsNearestAway q k) :
    n = k := by
  have htie : |q - n| = |q - k| := le_antisymm (hn k).1 (hk n).1
  have hsize : |n| = |k| := le_antisymm ((hk n).2 htie) ((hn k).2 htie.symm)
  obtain hsame | hmirror := abs_eq_abs.mp hsize
  · exact hsame
  · -- Two integers on both sides of zero are as near to zero alone, and there zero is nearer.
    subst hmirror
    push_cast at htie
    have hk0 : (k : Rat) = 0 := by
      obtain hsame | hopposite := abs_eq_abs.mp htie
      · linarith
      · have hq : q = 0 := by linarith
        have hzero := (hk 0).1
        rw [hq, zero_sub, abs_neg, Int.cast_zero, sub_zero, abs_zero] at hzero
        exact abs_eq_zero.mp (le_antisymm hzero (abs_nonneg _))
    have hk0' : k = 0 := by exact_mod_cast hk0
    omega

/-- **There is one nearest integer.** -/
theorem isNearestAway_iff {n : Int} : IsNearestAway q n ↔ n = nearestAway q :=
  ⟨fun h => h.unique (isNearestAway_nearestAway q), fun h => h ▸ isNearestAway_nearestAway q⟩

theorem nearestAway_intCast (n : Int) : nearestAway n = n := by
  refine (isNearestAway_iff.mp fun m => ?_).symm
  rw [sub_self, abs_zero]
  refine ⟨abs_nonneg _, fun htie => ?_⟩
  have heq : (n : Rat) = m := sub_eq_zero.mp (abs_eq_zero.mp htie)
  rw [show m = n by exact_mod_cast heq.symm]

/-! ## The sum with a half -/

/-- The greatest double below a half, and the odd integers of 53 digits. -/
def Misrounded (q : Rat) : Prop :=
  |q| = 1 / 2 - 1 / 2 ^ 54 ∨ ∃ k : Int, q = k ∧ k % 2 = 1 ∧ 2 ^ 52 < |k| ∧ |k| < 2 ^ 53

theorem Misrounded.neg (h : Misrounded q) : Misrounded (-q) := by
  rcases h with habs | ⟨k, rfl, hodd, hlow, hhigh⟩
  · exact .inl (by rwa [abs_neg])
  · refine .inr ⟨-k, ?_, by omega, ?_, ?_⟩
    · push_cast
      rfl
    · rwa [abs_neg]
    · rwa [abs_neg]

theorem misrounded_neg_iff : Misrounded (-q) ↔ Misrounded q :=
  ⟨fun h => by simpa using h.neg, Misrounded.neg⟩

/-- An integer that is rounded wrongly is odd and has 53 digits. -/
theorem misrounded_intCast_iff {k : Int} :
    Misrounded k ↔ k % 2 = 1 ∧ 2 ^ 52 < |k| ∧ |k| < 2 ^ 53 := by
  constructor
  · rintro (habs | ⟨j, hj, hodd⟩)
    · -- No integer is just below a half.
      exfalso
      have hpos : (0 : Rat) < (|k| : Int) := by
        rw [Int.cast_abs, habs]
        norm_num
      have hlt : ((|k| : Int) : Rat) < 1 := by
        rw [Int.cast_abs, habs]
        norm_num
      have hpos' : 0 < |k| := by exact_mod_cast hpos
      have hlt' : |k| < 1 := by exact_mod_cast hlt
      omega
    · rw [show k = j by exact_mod_cast hj]
      exact hodd
  · exact fun h => .inr ⟨k, rfl, h⟩

theorem Misrounded.pos (h : Misrounded q) (hq : 0 ≤ q) : 0 < q := by
  refine lt_of_le_of_ne hq ?_
  rintro rfl
  rcases h with habs | ⟨k, hk, hodd, -⟩
  · norm_num at habs
  · have hk0 : k = 0 := by exact_mod_cast hk.symm
    omega

theorem misrounded_middle {k : Int} (hlow : 2 ^ 52 ≤ k) (hhigh : k < 2 ^ 53) :
    Misrounded k ↔ k % 2 = 1 := by
  rw [misrounded_intCast_iff, abs_of_nonneg (by omega)]
  omega

theorem not_misrounded_large (h : 2 ^ 53 ≤ |q|) : ¬Misrounded q := by
  rintro (habs | ⟨k, rfl, -, -, hhigh⟩)
  · rw [habs] at h
    norm_num at h
  · have hhigh' : |(k : Rat)| < 2 ^ 53 := by exact_mod_cast hhigh
    linarith

namespace Double

/-- The exponent of a number above zero that is given by its two bounds, and its last place. -/
theorem lastPlace_eq {s : Rat} {e : Int} (he : -1022 ≤ e) (hlow : 2 ^ e ≤ s)
    (hhigh : s < 2 ^ (e + 1)) : lastPlace s = e - 52 := by
  have hpos : 0 < s := (two_zpow_pos e).trans_le hlow
  have hexponent : binaryExponent s = e := by
    rw [binaryExponent_eq_iff hpos.ne', abs_of_pos hpos]
    exact ⟨hlow, hhigh⟩
  unfold lastPlace
  omega

/-- The sum for the greatest double below a half is one. -/
theorem ofRat_add_half_least : ofRat ((1 / 2 - 1 / 2 ^ 54) + 1 / 2) = .finite 1 := by
  decide +kernel

/-- From `2^53` on, the sum is rounded back. -/
theorem ofRat_add_half_large {r : Rat} (h : IsBinary64 r) (hr : 2 ^ 53 ≤ r) :
    ofRat (r + 1 / 2) = .finite r := by
  have hpos : 0 < r := lt_of_lt_of_le (by norm_num) hr
  obtain ⟨hlow, hhigh⟩ := binaryExponent_spec hpos.ne'
  rw [abs_of_pos hpos] at hlow hhigh
  generalize binaryExponent r = e at hlow hhigh
  have he : 53 ≤ e := by
    have hlt : (2 : Rat) ^ (53 : Int) < 2 ^ (e + 1) := lt_of_le_of_lt hr hhigh
    rw [two_zpow_lt_iff] at hlt
    omega
  have hplace := lastPlace_eq (by omega) hlow hhigh
  have htwo : (2 : Rat) ≤ 2 ^ (e - 52) := by
    have hle : (2 : Rat) ^ (1 : Int) ≤ 2 ^ (e - 52) := two_zpow_le_iff.mpr (by omega)
    rwa [zpow_one] at hle
  -- The next power of two is a whole unit away, so the sum has the same places.
  have hroom := h.add_unit_le hpos.ne' (m := 1) (e := e + 1) (by omega) (by simpa using hhigh)
  rw [hplace, Int.cast_one, one_mul] at hroom
  have hsum : lastPlace (r + 1 / 2) = e - 52 :=
    lastPlace_eq (by omega) (by linarith) (by linarith)
  obtain ⟨k, hk⟩ := h.multiple hpos.ne'
  rw [hplace] at hk
  have hnearest : nearest (r + 1 / 2) = r := by
    have hunit := two_zpow_pos (e - 52)
    have hround : roundHalfEven ((r + 1 / 2) / 2 ^ (e - 52)) = k := by
      apply roundHalfEven_of_lt_half
      · rw [le_div_iff₀ hunit]
        linarith
      · rw [div_lt_iff₀ hunit]
        linarith
    rw [nearest, hsum, hround]
    exact hk.symm
  rw [ofRat_of_pos (by linarith) (by rw [hnearest]; exact h.abs_lt), hnearest]

/-- From `2^52` to `2^53`, the sum is a tie. -/
theorem ofRat_add_half_middle {k : Int} (hlow : 2 ^ 52 ≤ k) (hhigh : k < 2 ^ 53) :
    ofRat (k + 1 / 2) = .finite (if k % 2 = 0 then k else k + 1 : Int) := by
  have hlow' : (2 : Rat) ^ (52 : Int) ≤ k := by exact_mod_cast hlow
  have hhigh' : (k : Rat) + 1 ≤ 2 ^ (53 : Int) := by exact_mod_cast hhigh
  have hplace : lastPlace ((k : Rat) + 1 / 2) = 0 :=
    lastPlace_eq (e := 52) (by omega) (by linarith) (by linarith)
  have hnearest : nearest ((k : Rat) + 1 / 2) = (if k % 2 = 0 then k else k + 1 : Int) := by
    rw [nearest, hplace, zpow_zero, div_one, mul_one, roundHalfEven_half]
  have hfits : |nearest ((k : Rat) + 1 / 2)| < 2 ^ 1024 := by
    rw [hnearest]
    refine (isBinary64_intCast ?_).abs_lt
    split <;> rw [abs_of_nonneg (by omega)] <;> omega
  have hpos : (0 : Rat) < 2 ^ (52 : Int) := two_zpow_pos 52
  rw [ofRat_of_pos (by linarith) hfits, hnearest]

/-- The number has no places but fractions, and in these it is more than half a unit below the next
integer. -/
def IsClear (s : Rat) : Prop := lastPlace s ≤ 0 ∧ s < s.floor + 1 - 2 ^ lastPlace s / 2

/-- Such a number is not rounded up to the next integer. -/
theorem IsClear.exists_ofRat {s : Rat} (h : IsClear s) (hpos : 0 < s) (hsize : s ≤ 2 ^ 53) :
    ∃ t, ofRat s = .finite t ∧ t.floor = s.floor := by
  obtain ⟨hplace, hgap⟩ := h
  obtain ⟨hfloor, -⟩ := floor_eq_iff.mp (rfl : s.floor = s.floor)
  have hzero : (0 : Rat) ≤ s.floor := by exact_mod_cast Rat.le_floor_iff.mpr hpos.le
  have hlow := le_nearest (m := s.floor) hplace (by simpa using hfloor)
  have hhigh := nearest_lt (m := s.floor + 1) hplace (by push_cast; simpa using hgap)
  rw [zpow_zero, mul_one] at hlow hhigh
  push_cast at hhigh
  have hfits : |nearest s| < 2 ^ 1024 := by
    rw [abs_of_nonneg (by linarith)]
    calc nearest s < 2 ^ 54 := by linarith
      _ ≤ 2 ^ 1024 := pow_le_pow_right₀ (by norm_num) (by norm_num)
  exact ⟨nearest s, ofRat_of_pos hpos hfits, floor_eq_iff.mpr ⟨hlow, hhigh⟩⟩

variable {r : Rat} (h : IsBinary64 r)
include h

/-- Below a half, only the greatest double comes too near to it. -/
theorem IsBinary64.isClear_below (hr : 0 ≤ r) (hlt : r < 1 / 2) (hne : r ≠ 1 / 2 - 1 / 2 ^ 54) :
    IsClear (r + 1 / 2) := by
  have hfloor : (r + 1 / 2).floor = 0 := by
    rw [floor_eq_iff]
    push_cast
    constructor <;> linarith
  have hsum : lastPlace (r + 1 / 2) = -53 := by
    refine lastPlace_eq (e := -1) (by omega) ?_ ?_ <;> norm_num <;> linarith
  have hbelow : r < 1 / 2 - 1 / 2 ^ 54 := by
    by_cases hquarter : r < 1 / 4
    · norm_num
      linarith
    · have hpos : 0 < r := by linarith
      have hplace : lastPlace r = -54 := by
        refine lastPlace_eq (e := -2) (by omega) ?_ ?_ <;> norm_num <;> linarith
      have hroom := h.add_unit_le hpos.ne' (m := 1) (e := -1) (by omega) (by norm_num; linarith)
      refine lt_of_le_of_ne ?_ hne
      rw [hplace] at hroom
      norm_num at hroom ⊢
      linarith
  refine ⟨by omega, ?_⟩
  rw [hfloor, hsum]
  norm_num at hbelow ⊢
  linarith

/-- From a half to `2^52`, the sum has places enough. -/
theorem IsBinary64.isClear_above (hr : 1 / 2 ≤ r) (hlt : r < 2 ^ 52) : IsClear (r + 1 / 2) := by
  have hpos : 0 < r := by linarith
  obtain ⟨hlow, hhigh⟩ := binaryExponent_spec hpos.ne'
  rw [abs_of_pos hpos] at hlow hhigh
  generalize binaryExponent r = e at hlow hhigh
  have hleast : -1 ≤ e := by
    have hhalf : (2 : Rat) ^ (-1 : Int) < 2 ^ (e + 1) := by
      refine lt_of_le_of_lt ?_ hhigh
      norm_num
      linarith
    rw [two_zpow_lt_iff] at hhalf
    omega
  have hmost : e < 52 := by
    rw [← two_zpow_lt_iff]
    exact lt_of_le_of_lt hlow (by exact_mod_cast hlt)
  have hplace := lastPlace_eq (by omega) hlow hhigh
  obtain ⟨hfloor, hnext⟩ := floor_eq_iff.mp (rfl : (r + 1 / 2).floor = (r + 1 / 2).floor)
  unfold IsClear
  generalize hn : (r + 1 / 2).floor = n at hfloor hnext ⊢
  by_cases hsame : r + 1 / 2 < 2 ^ (e + 1)
  · -- The next integer less a half has no more places, so it is a whole unit away.
    have hunit := two_zpow_pos (e - 52)
    have hroom := h.add_unit_le hpos.ne' (m := 2 * n + 1) (e := -1) (by omega) (by
      push_cast
      norm_num
      linarith)
    have hsum : lastPlace (r + 1 / 2) = e - 52 := lastPlace_eq (by omega) (by linarith) hsame
    rw [hplace] at hroom
    push_cast at hroom
    norm_num at hroom
    rw [hsum]
    constructor
    · omega
    · linarith
  · -- The sum has passed a power of two by less than a half, and that power is an integer.
    obtain ⟨power, hpower⟩ := two_zpow_multiple (d := 0) (e := e + 1) (by omega)
    have hone : (1 : Rat) ≤ 2 ^ (e + 1) := by
      rw [← zpow_zero (2 : Rat)]
      exact two_zpow_le_iff.mpr (by omega)
    have hreached : n = power := by
      rw [zpow_zero, mul_one] at hpower
      rw [← hn, floor_eq_iff, ← hpower]
      constructor <;> linarith
    have hsum : lastPlace (r + 1 / 2) = e + 1 - 52 := by
      refine lastPlace_eq (by omega) (not_lt.mp hsame) ?_
      rw [zpow_add_one₀ (by norm_num)]
      linarith
    have hunit : (2 : Rat) ^ (e + 1 - 52) ≤ 1 := by
      rw [← zpow_zero (2 : Rat)]
      exact two_zpow_le_iff.mpr (by omega)
    rw [zpow_zero, mul_one] at hpower
    rw [hsum, hreached, ← hpower]
    constructor
    · omega
    · linarith

/-- **The sum of a half and a number that is not below zero**: the integer below it is right, but
for the numbers that are rounded wrongly, for which it is one too many. -/
theorem IsBinary64.exists_sum (hr : 0 ≤ r) : ∃ t, ofRat (r + 1 / 2) = .finite t ∧
    (¬Misrounded r → t.floor = (r + 1 / 2).floor) ∧
    (Misrounded r → t.floor = (r + 1 / 2).floor + 1) := by
  by_cases hsmall : r < 2 ^ 52
  · have hnot : Misrounded r → r = 1 / 2 - 1 / 2 ^ 54 := by
      rintro (habs | ⟨k, rfl, -, hk, -⟩)
      · rwa [abs_of_nonneg hr] at habs
      · rw [abs_of_nonneg (by exact_mod_cast hr)] at hk
        have hk' : (2 : Rat) ^ 52 < k := by exact_mod_cast hk
        linarith
    by_cases hexcept : r = 1 / 2 - 1 / 2 ^ 54
    · have hmis : Misrounded r := .inl (by rw [abs_of_nonneg hr, hexcept])
      have hzero : (r + 1 / 2).floor = 0 := by
        rw [floor_eq_iff, hexcept]
        norm_num
      have hone : ((1 : Rat)).floor = 1 := by
        rw [floor_eq_iff]
        norm_num
      refine ⟨1, ?_, fun h => absurd hmis h, fun _ => ?_⟩
      · rw [hexcept]
        exact ofRat_add_half_least
      · rw [hone, hzero, zero_add]
    · have hclear : IsClear (r + 1 / 2) := by
        by_cases hhalf : r < 1 / 2
        · exact h.isClear_below hr hhalf hexcept
        · exact h.isClear_above (not_lt.mp hhalf) hsmall
      obtain ⟨t, ht, hfloor⟩ := hclear.exists_ofRat (by linarith) (by linarith)
      exact ⟨t, ht, fun _ => hfloor, fun hmis => absurd (hnot hmis) hexcept⟩
  · obtain ⟨k, rfl⟩ := h.whole (by rw [abs_of_nonneg hr]; exact not_lt.mp hsmall)
    have hk : (2 : Int) ^ 52 ≤ k := by exact_mod_cast not_lt.mp hsmall
    have hfloor : ((k : Rat) + 1 / 2).floor = k := by
      rw [floor_eq_iff]
      constructor <;> linarith
    by_cases hmiddle : k < 2 ^ 53
    · have hmis : Misrounded k ↔ k % 2 = 1 := misrounded_middle hk hmiddle
      refine ⟨_, ofRat_add_half_middle hk hmiddle, fun hnot => ?_, fun hodd => ?_⟩
      · rw [hmis] at hnot
        rw [if_pos (by omega), hfloor, Rat.floor_intCast]
      · rw [hmis] at hodd
        rw [if_neg (by omega), hfloor, Rat.floor_intCast]
    · have hlarge : (2 : Rat) ^ 53 ≤ k := by exact_mod_cast not_lt.mp hmiddle
      refine ⟨k, ofRat_add_half_large h hlarge, fun _ => ?_, fun hmis => ?_⟩
      · rw [hfloor, Rat.floor_intCast]
      · exact absurd hmis (not_misrounded_large (by rwa [abs_of_nonneg hr]))

end Double

/-! ## Which numbers are rounded to the nearest integer -/

namespace Double

/-- A double is rounded to the nearest integer, or to the one after that if the sum of its size and
a half is rounded up to an integer. -/
theorem IsBinary64.roundHalfAway (h : IsBinary64 q) : ∃ n, (finite q).roundHalfAway = .ok n ∧
    (¬Misrounded q → IsNearestAway q n) ∧ (Misrounded q → IsNearestAway q (n - q.num.sign)) := by
  have hhalf : mkRat 1 2 = (1 / 2 : Rat) := Rat.mkRat_eq_div 1 2
  by_cases hq : 0 ≤ q
  · obtain ⟨t, ht, hright, hwrong⟩ := h.exists_sum hq
    refine ⟨t.floor, ?_, fun hnot => ?_, fun hmis => ?_⟩
    · simp only [Double.roundHalfAway, isNonnegative, decide_eq_true hq, if_true, add, half, hhalf,
        ht, floor, toIntBy]
    · rw [hright hnot]
      exact isNearestAway_floor hq
    · have hsign : q.num.sign = 1 := Int.sign_eq_one_of_pos (Rat.num_pos.mpr (hmis.pos hq))
      rw [hwrong hmis, hsign, add_sub_cancel_right]
      exact isNearestAway_floor hq
  · have hneg : q < 0 := not_le.mp hq
    obtain ⟨t, ht, hright, hwrong⟩ := h.neg.exists_sum (by linarith)
    rw [misrounded_neg_iff] at hright hwrong
    have hfloor := (isNearestAway_floor (q := -q) (by linarith)).neg
    rw [neg_neg] at hfloor
    refine ⟨-t.floor, ?_, fun hnot => ?_, fun hmis => ?_⟩
    · simp only [Double.roundHalfAway, isNonnegative, decide_eq_false hq, Double.neg,
        if_neg hneg.ne, add, half, hhalf, ht, floor, toIntBy, Except.map, Bool.false_eq_true,
        if_false]
    · rwa [hright hnot]
    · have hsign : q.num.sign = -1 := Int.sign_eq_neg_one_of_neg (Rat.num_neg.mpr hneg)
      have hless : -t.floor - q.num.sign = -((-q) + 1 / 2).floor := by
        rw [hwrong hmis, hsign]
        ring
      rwa [hless]

/-- The power of two below a number is not passed when the number is rounded. -/
theorem lastPlace_le_exponent {e : Int} (he : -1074 ≤ e) (hq : 2 ^ e ≤ |q|) :
    lastPlace q ≤ binaryExponent q ∧ (2 : Rat) ^ e ≤ 2 ^ binaryExponent q := by
  have hne : q ≠ 0 := abs_pos.mp ((two_zpow_pos e).trans_le hq)
  have hlt : e < binaryExponent q + 1 :=
    two_zpow_lt_iff.mp (hq.trans_lt (binaryExponent_spec hne).2)
  refine ⟨?_, two_zpow_le_iff.mpr (by omega)⟩
  unfold lastPlace
  omega

theorem two_zpow_le_nearest {e : Int} (he : -1074 ≤ e) (hq : 2 ^ e ≤ q) : 2 ^ e ≤ nearest q := by
  have hpos : 0 < q := (two_zpow_pos e).trans_le hq
  obtain ⟨hplace, hpower⟩ := lastPlace_le_exponent (q := q) he (by rwa [abs_of_pos hpos])
  have hexponent := (binaryExponent_spec hpos.ne').1
  rw [abs_of_pos hpos] at hexponent
  have hnearest := le_nearest (m := 1) hplace (by simpa using hexponent)
  rw [Int.cast_one, one_mul] at hnearest
  exact hpower.trans hnearest

theorem nearest_le_neg_two_zpow {e : Int} (he : -1074 ≤ e) (hq : q ≤ -2 ^ e) :
    nearest q ≤ -2 ^ e := by
  have hneg : q < 0 := hq.trans_lt (neg_neg_of_pos (two_zpow_pos e))
  obtain ⟨hplace, hpower⟩ := lastPlace_le_exponent (q := q) he (by rw [abs_of_neg hneg]; linarith)
  have hexponent := (binaryExponent_spec hneg.ne).1
  rw [abs_of_neg hneg] at hexponent
  have hnearest := nearest_le (m := -1) hplace (by push_cast; linarith)
  push_cast at hnearest
  linarith

theorem abs_nearest_le {e : Int} (he : -1074 ≤ e) (hne : q ≠ 0) (hq : |q| ≤ 2 ^ e) :
    |nearest q| ≤ 2 ^ e := by
  have hplace : lastPlace q ≤ e := by
    have hexponent := binaryExponent_le hne hq
    unfold lastPlace
    omega
  obtain ⟨hlow, hhigh⟩ := abs_le.mp hq
  have hleast := le_nearest (m := -1) hplace (by push_cast; linarith)
  have hmost := nearest_le (m := 1) hplace (by push_cast; linarith)
  push_cast at hleast hmost
  exact abs_le.mpr ⟨by linarith, by linarith⟩

/-- An integer becomes a double that is an integer: itself up to `2^53`, and beyond one that is not
between these bounds either. -/
theorem ofInt_cases (n : Int) : 2 ^ 1023 < |n| ∧ ofInt n = .error .integerTooLarge ∨
    ∃ k : Int, ofInt n = .ok (.finite k) ∧ IsBinary64 k ∧ (|n| ≤ 2 ^ 53 → k = n) ∧
      (2 ^ 53 < n → 2 ^ 53 ≤ k) ∧ (n < -2 ^ 53 → k ≤ -2 ^ 53) := by
  by_cases hsize : |n| ≤ 2 ^ 53
  · have hbinary := isBinary64_intCast hsize
    have hbounds := abs_le.mp hsize
    exact .inr ⟨n, hbinary.ofInt_eq, hbinary, fun _ => rfl, fun _ => by omega, fun _ => by omega⟩
  · have hup : 2 ^ 53 < n → (2 : Rat) ^ (53 : Int) ≤ nearest n := fun hn =>
      two_zpow_le_nearest (by omega) (by exact_mod_cast hn.le)
    have hdown : n < -2 ^ 53 → nearest (n : Rat) ≤ -2 ^ (53 : Int) := fun hn =>
      nearest_le_neg_two_zpow (by omega) (by exact_mod_cast hn.le)
    have hlarge : (2 : Rat) ^ (53 : Int) ≤ |nearest n| := by
      rcases lt_abs.mp (not_le.mp hsize) with hn | hn
      · exact le_abs.mpr (.inl (hup hn))
      · exact le_abs.mpr (.inr (by linarith [hdown (by omega)]))
    have hne : (n : Rat) ≠ 0 := by
      rintro hzero
      have hzero' : n = 0 := by exact_mod_cast hzero
      exact hsize (by rw [hzero']; norm_num)
    have hnonzero : nearest (n : Rat) ≠ 0 := abs_pos.mp ((two_zpow_pos 53).trans_le hlarge)
    have hround := ofRat_eq hne
    split at hround
    · next hinfinite =>
      left
      have hexceeds (e : Nat) (he : e < 1024) : 2 ^ e < |n| := by
        by_contra hsmall
        have hle := abs_nearest_le (e := e) (by omega) hne (by exact_mod_cast not_lt.mp hsmall)
        rw [zpow_natCast] at hle
        have hlt : (2 : Rat) ^ e < 2 ^ 1024 := pow_lt_pow_right₀ (by norm_num) he
        exact absurd (hinfinite.trans hle) (not_le.mpr hlt)
      exact ⟨hexceeds 1023 (by omega), by simp only [ofInt, hround]⟩
    · rw [if_neg fun hboth => hnonzero hboth.1] at hround
      have hbinary := isBinary64_of_ofRat hround
      obtain ⟨k, hk⟩ := hbinary.whole (le_trans (by norm_num) hlarge)
      rw [hk] at hround hbinary hup hdown
      refine .inr ⟨k, by simp only [ofInt, hround], hbinary, fun h => absurd h hsize, fun hn => ?_,
        fun hn => ?_⟩
      · exact_mod_cast hup hn
      · exact_mod_cast hdown hn

/-- What an integer with a double is rounded to. -/
theorem roundHalfAway_intCast {k : Int} (h : IsBinary64 k) : ∃ n, (finite k).roundHalfAway = .ok n ∧
    (¬Misrounded k → n = k) ∧ (Misrounded k → n = k + k.sign) := by
  obtain ⟨n, hn, hright, hwrong⟩ := h.roundHalfAway
  refine ⟨n, hn, fun hnot => ?_, fun hmis => ?_⟩
  · rw [isNearestAway_iff.mp (hright hnot), nearestAway_intCast]
  · have hless := isNearestAway_iff.mp (hwrong hmis)
    rw [nearestAway_intCast, Rat.num_intCast] at hless
    omega

end Double

theorem clampChannel_toNat_eq (n : Int) : ((clampChannel n).toNat : Int) = max 0 (min 255 n) := by
  rw [clampChannel, UInt8.toNat_ofNat_of_lt' (by simp only [UInt8.size]; omega)]
  omega

/-- A large integer is rounded to one on its side of the channels. -/
theorem clampChannel_misrounded {k : Int} (h : Misrounded k) :
    clampChannel (k + k.sign) = clampChannel k := by
  obtain ⟨-, hlow, -⟩ := misrounded_intCast_iff.mp h
  rw [clampChannel, clampChannel]
  congr 2
  rcases lt_abs.mp hlow with hpos | hneg
  · rw [Int.sign_eq_one_of_pos (by omega)]
    omega
  · rw [Int.sign_eq_neg_one_of_neg (by omega)]
    omega

namespace Number

variable {n k : Int}

theorem roundHalfAway_int_of_ok (h : Double.ofInt n = .ok (.finite k)) :
    (Number.int n).roundHalfAway = (Double.finite k).roundHalfAway := by
  simp only [Number.roundHalfAway, toDouble, h, Except.bind]

/-- **An integer is rounded to itself** if it is a double that is not rounded wrongly. -/
theorem roundHalfAway_int_iff :
    (Number.int n).roundHalfAway = .ok n ↔ Double.IsBinary64 n ∧ ¬Misrounded n := by
  obtain ⟨-, hrefused⟩ | ⟨k, hk, hbinary, hsmall, hup, hdown⟩ := Double.ofInt_cases n
  · constructor
    · intro hn
      simp only [Number.roundHalfAway, toDouble, hrefused, Except.bind] at hn
      cases hn
    · rintro ⟨hbinary, -⟩
      rw [hbinary.ofInt_eq] at hrefused
      cases hrefused
  · obtain ⟨m, hm, hright, hwrong⟩ := Double.roundHalfAway_intCast hbinary
    rw [roundHalfAway_int_of_ok hk, hm]
    constructor
    · rintro heq
      obtain rfl := Except.ok.inj heq
      by_cases hmis : Misrounded k
      · -- An integer that is rounded wrongly is small enough to be a double, and is rounded away.
        exfalso
        obtain ⟨hodd, -, hlt⟩ := misrounded_intCast_iff.mp hmis
        have hlt' := abs_lt.mp hlt
        have hkm := hsmall (abs_le.mpr ⟨by omega, by omega⟩)
        have hsign : k.sign = 0 := by
          have hsum := hwrong hmis
          omega
        rw [Int.sign_eq_zero_iff_zero] at hsign
        omega
      · obtain rfl := hright hmis
        exact ⟨hbinary, hmis⟩
    · rintro ⟨hn, hnot⟩
      rw [hn.ofInt_eq] at hk
      have hkn : (n : Rat) = k := Double.finite.inj (Except.ok.inj hk)
      obtain rfl : n = k := by exact_mod_cast hkn
      rw [hright hnot]

/-- The channel of an integer is the one nearest to it, wherever the integer has a double. -/
theorem channel_int (n : Int) : (Number.int n).channel = .ok (clampChannel n) ∨
    2 ^ 1023 < |n| ∧ (Number.int n).channel = .error .integerTooLarge := by
  obtain ⟨hlarge, hrefused⟩ | ⟨k, hk, hbinary, hsmall, hup, hdown⟩ := Double.ofInt_cases n
  · right
    refine ⟨hlarge, ?_⟩
    simp only [Number.channel, Number.roundHalfAway, toDouble, hrefused, Except.bind, Except.map]
  · left
    obtain ⟨m, hm, hright, hwrong⟩ := Double.roundHalfAway_intCast hbinary
    have hmk : clampChannel m = clampChannel k := by
      by_cases hmis : Misrounded k
      · rw [hwrong hmis, clampChannel_misrounded hmis]
      · rw [hright hmis]
    have hkn : clampChannel k = clampChannel n := by
      by_cases hsize : |n| ≤ 2 ^ 53
      · rw [hsmall hsize]
      · rw [clampChannel, clampChannel]
        congr 2
        rcases lt_abs.mp (not_le.mp hsize) with hpos | hneg
        · have hk := hup hpos
          omega
        · have hk := hdown (by omega)
          omega
    rw [Number.channel, roundHalfAway_int_of_ok hk, hm, Except.map, hmk, hkn]

end Number

/-- The channel of a double is the one nearest to it, but for the greatest one below a half. -/
theorem Double.IsBinary64.channel (h : IsBinary64 q) (hne : q ≠ 1 / 2 - 1 / 2 ^ 54) :
    ∃ n, IsNearestAway q n ∧ (Double.finite q).channel = .ok (clampChannel n) := by
  obtain ⟨n, hn, hright, hwrong⟩ := h.roundHalfAway
  by_cases hmis : Misrounded q
  · refine ⟨n - q.num.sign, hwrong hmis, ?_⟩
    rw [Double.channel, hn, Except.map]
    congr 1
    rcases id hmis with habs | ⟨k, rfl, hk⟩
    · -- Below zero, both integers are in the least channel.
      have hq : q = -(1 / 2 - 1 / 2 ^ 54) := by
        rcases abs_cases q with ⟨hsame, -⟩ | ⟨hopposite, -⟩
        · exact absurd (hsame.symm.trans habs) hne
        · linarith
      have hneg : q < 0 := by
        rw [hq]
        norm_num
      have hsign : q.num.sign = -1 := Int.sign_eq_neg_one_of_neg (Rat.num_neg.mpr hneg)
      have hfloor : (-q + 1 / 2).floor = 0 := by
        rw [floor_eq_iff, hq]
        norm_num
      have hzero : nearestAway q = 0 := by
        rw [nearestAway, if_neg hneg.not_ge, hfloor, neg_zero]
      have hless := isNearestAway_iff.mp (hwrong hmis)
      rw [hzero, hsign] at hless
      obtain rfl : n = -1 := by omega
      rw [hsign]
      rfl
    · have hless := isNearestAway_iff.mp (hwrong hmis)
      rw [Rat.num_intCast, nearestAway_intCast] at hless
      obtain rfl : n = k + k.sign := by omega
      rw [Rat.num_intCast, add_sub_cancel_right, clampChannel_misrounded hmis]
  · refine ⟨n, hright hmis, ?_⟩
    rw [Double.channel, hn, Except.map]

/-- **Rounding half away from zero**: every double goes to the nearest integer but those that are
rounded wrongly, which go one farther from zero, and of these only the greatest double below a half
gets another channel. An integer goes to itself if it is a double, and gets the nearest channel
unless it is too large for one. -/
theorem half_away_exact (h : Double.IsBinary64 q) (n : Int) :
    (∃ k, (Double.finite q).roundHalfAway = .ok k ∧ (¬Misrounded q → IsNearestAway q k) ∧
      (Misrounded q → IsNearestAway q (k - q.num.sign))) ∧
    (q ≠ 1 / 2 - 1 / 2 ^ 54 → ∃ k channel, IsNearestAway q k ∧
      (Double.finite q).channel = .ok channel ∧ (channel.toNat : Int) = max 0 (min 255 k)) ∧
    (Double.negZero.roundHalfAway = .ok 0 ∧ Double.negZero.channel = .ok 0) ∧
    ((Number.int n).roundHalfAway = .ok n ↔ Double.IsBinary64 n ∧ ¬Misrounded n) ∧
    ((∃ channel, (Number.int n).channel = .ok channel ∧
        (channel.toNat : Int) = max 0 (min 255 n)) ∨
      2 ^ 1023 < |n| ∧ (Number.int n).channel = .error .integerTooLarge) := by
  refine ⟨h.roundHalfAway, fun hne => ?_, ⟨rfl, rfl⟩, Number.roundHalfAway_int_iff, ?_⟩
  · obtain ⟨k, hnearest, hchannel⟩ := h.channel hne
    exact ⟨k, _, hnearest, hchannel, clampChannel_toNat_eq k⟩
  · rcases Number.channel_int n with hchannel | hrefused
    · exact .inl ⟨_, hchannel, clampChannel_toNat_eq n⟩
    · exact .inr hrefused

theorem half_away_exact_tie : Double.IsBinary64 (255 / 2) ∧
    (Double.finite (255 / 2)).roundHalfAway = .ok 128 ∧ IsNearestAway (255 / 2) 128 := by
  have hbinary : Double.IsBinary64 (255 / 2) :=
    ⟨255, -1, by norm_num, by norm_num, by norm_num, by norm_num⟩
  have hright : ¬Misrounded (255 / 2) := by
    rintro (habs | ⟨k, hk, -⟩)
    · norm_num [abs_of_pos] at habs
    · have htwice : (255 : Rat) = (2 * k : Int) := by
        push_cast
        linarith
      have hwhole : 255 = 2 * k := by exact_mod_cast htwice
      omega
  have hfloor : ((255 / 2 : Rat) + 1 / 2).floor = 128 := by
    rw [floor_eq_iff]
    norm_num
  obtain ⟨n, hn, hnearest, -⟩ := (half_away_exact hbinary 0).1
  obtain rfl : n = 128 := by
    rw [isNearestAway_iff.mp (hnearest hright), nearestAway, if_pos (by norm_num), hfloor]
  exact ⟨hbinary, hn, hnearest hright⟩

/-- The greatest double below a half goes to one, and the integer `2^52 + 1` to the next one. -/
theorem half_away_misrounds :
    (Double.IsBinary64 (1 / 2 - 1 / 2 ^ 54) ∧
      (Double.finite (1 / 2 - 1 / 2 ^ 54)).roundHalfAway = .ok 1 ∧
      ¬IsNearestAway (1 / 2 - 1 / 2 ^ 54) 1) ∧
    (Number.int (2 ^ 52 + 1)).roundHalfAway = .ok (2 ^ 52 + 2) := by
  refine ⟨⟨⟨2 ^ 53 - 1, -54, by norm_num, by norm_num, by norm_num, by norm_num⟩,
    Outcome.eq_ok_of_toOption (by decide +kernel), fun hnearest => ?_⟩,
    Outcome.eq_ok_of_toOption (by decide +kernel)⟩
  have hzero := (hnearest 0).1
  norm_num [abs_of_pos] at hzero

end LedStudio
