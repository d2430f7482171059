import Mathlib.Tactic.Linarith
import Mathlib.Tactic.Positivity
import LedStudio.Number.Mixed
import LedStudio.Proofs.Number.Exponent

/-!
# Small numbers stay finite

Rounding moves a number of moderate size by less than one, so that a few sums and products of small
doubles are finite, and integers can be taken out of them.

* `ofRat_within` — rounding a number up to a million.
* `Within.add`, `Within.mul`, `Within.roundHalfAway` — arithmetic with bounds.
* `ofInt_within`, `quotient_within` — doubles from integers.
-/

namespace LedStudio

/-! ## Rounding -/

theorem roundHalfEven_cases (q : Rat) :
    roundHalfEven q = q.floor ∨ roundHalfEven q = q.floor + 1 := by
  unfold roundHalfEven
  dsimp only
  split_ifs <;> simp

theorem roundHalfEven_near (q : Rat) :
    q - 1 ≤ (roundHalfEven q : Rat) ∧ (roundHalfEven q : Rat) ≤ q + 1 := by
  have hlow : (q.floor : Rat) ≤ q := Rat.floor_le q
  have hhigh : q - 1 < (q.floor : Rat) := Rat.lt_floor
  rcases roundHalfEven_cases q with h | h <;> rw [h] <;> push_cast <;> constructor <;> linarith

/-- An integer stays itself. -/
theorem roundHalfEven_intCast (m : Int) : roundHalfEven m = m := by
  have hrest : (m : Rat) - (m : Rat) < mkRat 1 2 := by
    rw [sub_self]
    decide
  simp only [roundHalfEven, Rat.floor_intCast, if_pos hrest]

/-- Rounding does not lead past an integer from above. -/
theorem le_roundHalfEven {m : Int} {q : Rat} (h : (m : Rat) ≤ q) : m ≤ roundHalfEven q := by
  have hfloor : m ≤ q.floor := Rat.le_floor_iff.mpr h
  rcases roundHalfEven_cases q with heq | heq <;> omega

/-- Rounding does not lead past an integer from below. -/
theorem roundHalfEven_le {m : Int} {q : Rat} (h : q ≤ (m : Rat)) : roundHalfEven q ≤ m := by
  have hfloor : q.floor ≤ m := by exact_mod_cast (Rat.floor_le q).trans h
  by_cases heq : q = m
  · rw [heq, roundHalfEven_intCast]
  · have hlt : q.floor < m := by
      rw [Rat.floor_lt_iff]
      exact lt_of_le_of_ne h heq
    rcases roundHalfEven_cases q with hround | hround <;> omega

theorem twoPow_of_nonpos {e : Int} (h : e ≤ 0) : 0 < twoPow e ∧ twoPow e ≤ 1 := by
  rw [twoPow_eq_zpow]
  exact ⟨two_zpow_pos e, zpow_le_one_of_nonpos₀ (by norm_num) h⟩

namespace Double

/-- A finite number between a bound and its negative. -/
def Within (bound : Rat) (x : Double) : Prop :=
  ∃ q, x.rational? = some q ∧ -bound ≤ q ∧ q ≤ bound

variable {a b : Rat} {x y : Double}

theorem Within.mono (h : Within a x) (hab : a ≤ b) : Within b x := by
  obtain ⟨q, hq, hlow, hhigh⟩ := h
  exact ⟨q, hq, by linarith, by linarith⟩

theorem within_finite {q : Rat} (hlow : -b ≤ q) (hhigh : q ≤ b) : Within b (.finite q) :=
  ⟨q, rfl, hlow, hhigh⟩

theorem within_zero (negative : Bool) (h : 0 ≤ b) : Within b (zero negative) := by
  cases negative <;> exact ⟨0, rfl, by linarith, h⟩

/-- A double up to a power of two has 52 places below that one. -/
theorem lastPlace_le {k : Nat} {q : Rat} (hq : q ≠ 0) (hlow : -2 ^ k ≤ q) (hhigh : q ≤ 2 ^ k)
    {e : Int} (hk : k - 52 ≤ e) (he : -1074 ≤ e) : lastPlace q ≤ e := by
  have hexponent : binaryExponent q ≤ k := by
    refine binaryExponent_le hq ?_
    rw [zpow_natCast]
    exact abs_le.mpr ⟨hlow, hhigh⟩
  exact Int.max_le.mpr ⟨by omega, he⟩

/-- **Rounding moves a number up to `2^52` by at most one**, and so it stays finite. -/
theorem ofRat_within {q : Rat} (hb : b ≤ 2 ^ 52) (hlow : -b ≤ q) (hhigh : q ≤ b) :
    Within (b + 1) (ofRat q) := by
  unfold ofRat
  split
  · exact within_finite (by linarith) (by linarith)
  · next hq =>
    have hplace : lastPlace q ≤ 0 :=
      lastPlace_le (k := 52) hq (by linarith) (by linarith) (by decide) (by decide)
    obtain ⟨hpos, hunit⟩ := twoPow_of_nonpos hplace
    obtain ⟨hbelow, habove⟩ := roundHalfEven_near (q / twoPow (lastPlace q))
    have hcancel : q / twoPow (lastPlace q) * twoPow (lastPlace q) = q :=
      div_mul_cancel₀ q hpos.ne'
    have hmin : -(b + 1) ≤ roundHalfEven (q / twoPow (lastPlace q)) * twoPow (lastPlace q) := by
      nlinarith [mul_le_mul_of_nonneg_right hbelow hpos.le]
    have hmax : roundHalfEven (q / twoPow (lastPlace q)) * twoPow (lastPlace q) ≤ b + 1 := by
      nlinarith [mul_le_mul_of_nonneg_right habove hpos.le]
    dsimp only
    generalize roundHalfEven (q / twoPow (lastPlace q)) * twoPow (lastPlace q) = nearest
      at hmin hmax
    have hfits : ¬twoPow 1024 ≤ nearest.abs := by
      have hlarge : (2 ^ 53 : Rat) ≤ twoPow 1024 := by decide +kernel
      unfold Rat.abs
      split <;> linarith
    rw [if_neg hfits]
    split
    · exact ⟨0, rfl, by linarith, by linarith⟩
    · exact ⟨nearest, rfl, hmin, hmax⟩

/-! ## Arithmetic -/

theorem Within.rational_eq (h : Within b x) : ∃ q, (x = .finite q ∨ x = .negZero ∧ q = 0) ∧
    -b ≤ q ∧ q ≤ b := by
  obtain ⟨q, hq, hlow, hhigh⟩ := h
  cases x with
  | finite r =>
    cases hq
    exact ⟨q, .inl rfl, hlow, hhigh⟩
  | negZero =>
    cases hq
    exact ⟨0, .inr ⟨rfl, rfl⟩, hlow, hhigh⟩
  | infinite negative => cases hq
  | nan => cases hq

theorem Within.add (hx : Within a x) (hy : Within b y) (hsum : a + b ≤ 2 ^ 52) :
    Within (a + b + 1) (x.add y) := by
  obtain ⟨p, hp, hplow, hphigh⟩ := hx.rational_eq
  obtain ⟨q, hq, hqlow, hqhigh⟩ := hy.rational_eq
  rcases hp with rfl | ⟨rfl, rfl⟩ <;> rcases hq with rfl | ⟨rfl, rfl⟩
  · exact ofRat_within hsum (by linarith) (by linarith)
  · exact within_finite (by linarith) (by linarith)
  · exact within_finite (by linarith) (by linarith)
  · exact ⟨0, rfl, by linarith, by linarith⟩

theorem mulFinite_within (negative : Bool) {p q : Rat} (hb : b ≤ 2 ^ 52) (hlow : -b ≤ p * q)
    (hhigh : p * q ≤ b) : Within (b + 1) (mulFinite negative p q) := by
  unfold mulFinite
  split
  · exact within_zero negative (by linarith)
  · exact ofRat_within hb hlow hhigh

theorem Within.mul (hx : Within a x) (hy : Within b y) (hproduct : a * b ≤ 2 ^ 52) :
    Within (a * b + 1) (x.mul y) := by
  obtain ⟨p, hp, hplow, hphigh⟩ := hx.rational_eq
  obtain ⟨q, hq, hqlow, hqhigh⟩ := hy.rational_eq
  have hsize : -(a * b) ≤ p * q ∧ p * q ≤ a * b := by
    constructor <;> nlinarith
  rcases hp with rfl | ⟨rfl, rfl⟩ <;> rcases hq with rfl | ⟨rfl, rfl⟩ <;>
    exact mulFinite_within _ hproduct hsize.1 hsize.2

theorem Within.neg (hx : Within b x) : Within b x.neg := by
  obtain ⟨q, hq, hlow, hhigh⟩ := hx.rational_eq
  rcases hq with rfl | ⟨rfl, rfl⟩
  · unfold Double.neg
    dsimp only
    split
    · exact ⟨0, rfl, by linarith, by linarith⟩
    · exact within_finite (by linarith) (by linarith)
  · exact within_finite (by linarith) (by linarith)

/-- An integer can be taken out of a finite number. -/
theorem Within.toIntBy (hx : Within b x) (choose : Rat → Int) : ∃ n, x.toIntBy choose = .ok n := by
  obtain ⟨q, hq, -, -⟩ := hx.rational_eq
  rcases hq with rfl | ⟨rfl, rfl⟩ <;> exact ⟨_, rfl⟩

theorem half_within : Within 1 half := within_finite (by decide +kernel) (by decide +kernel)

theorem Within.roundHalfAway (hx : Within b x) (hb : b + 1 ≤ 2 ^ 52) :
    ∃ n, x.roundHalfAway = .ok n := by
  unfold Double.roundHalfAway
  split
  · exact (hx.add half_within hb).toIntBy _
  · obtain ⟨n, hn⟩ := (hx.neg.add half_within hb).toIntBy Rat.floor
    exact ⟨-n, by rw [floor, hn]; rfl⟩

/-! ## From integers -/

theorem Within.ne_infinite (hx : Within b x) (negative : Bool) : x ≠ .infinite negative := by
  rintro rfl
  obtain ⟨q, hq, -⟩ := hx
  cases hq

theorem ofInt_within {n : Int} (hb : b ≤ 2 ^ 52) (hlow : -b ≤ (n : Rat)) (hhigh : (n : Rat) ≤ b) :
    ∃ x, ofInt n = .ok x ∧ Within (b + 1) x := by
  have hrounded := ofRat_within hb hlow hhigh
  refine ⟨ofRat n, ?_, hrounded⟩
  unfold ofInt
  split
  · next negative h => exact absurd h (hrounded.ne_infinite negative)
  · rfl

theorem quotient_within {n d : Int} (hd : d ≠ 0) (hb : b ≤ 2 ^ 52) (hlow : -b ≤ (n : Rat) / d)
    (hhigh : (n : Rat) / d ≤ b) : ∃ x, quotient n d = .ok x ∧ Within (b + 1) x := by
  have hrounded := ofRat_within hb hlow hhigh
  unfold quotient
  rw [if_neg hd]
  split
  · exact ⟨_, rfl, within_zero _ (by linarith)⟩
  · refine ⟨ofRat (n / d), ?_, hrounded⟩
    split
    · next negative h => exact absurd h (hrounded.ne_infinite negative)
    · rfl

end Double
end LedStudio
