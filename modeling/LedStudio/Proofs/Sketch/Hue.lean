import LedStudio.Sketch.Snippet
import LedStudio.Pattern.Rule
import LedStudio.Proofs.Number.Binary
import Mathlib.Data.Rat.Floor

/-!
# The hues of a rainbow

A sketch computes the hue of an LED by a formula on integers, where a division drops the remainder; the
preview computes it in degrees, by fractions. Both run once around the strip and once around the circle
of hues in 180 frames. The formula rounds down twice, so it is behind the preview by less than two of
the 256 units of the circle, and all that it goes through fits into 32 bits.

* `snippet_eq_lines` — the formula is the one in the snippet.
* `previewHue_sub_hue`, `hueDistance_lt` — how far it is behind.
* `intermediates_le` — how large its intermediate results are.
* `hue_repeats`, `previewHue_repeats` — the frames in which a hue is back.
* `rule_eq_ofHsl` — where no step of the preview is rounded, it shows this very hue.
* `hue_tracks_preview` — all of these together.
-/

namespace LedStudio

/-! ## Formulas -/

namespace Formula

/-- What the frame routine has a name for. -/
inductive Name where
  | index | count | frame

def Name.text : Name → String
  | index => "i"
  | count => "NUM_LEDS"
  | frame => "frame"

/-- The operators that are applied from left to right before sums are taken. -/
inductive Operator where
  | mul | div | mod

def Operator.text : Operator → String
  | mul => "*"
  | div => "/"
  | mod => "%"

/-- Quotients are rounded toward zero, and a remainder has the sign of what is divided. -/
def Operator.apply : Operator → Int → Int → Int
  | mul => (· * ·)
  | div => Int.tdiv
  | mod => Int.tmod

/-- What a formula may be a part of without parentheses. -/
inductive Rank where
  | atom | product | sum

end Formula

/-- A formula as it stands in the text. What may stand on either side of an operator without parentheses
is as the language has it: products before sums, and both from left to right. -/
inductive Formula : Formula.Rank → Type where
  | name (x : Formula.Name) : Formula .atom
  | number (n : Nat) (long : Bool) : Formula .atom
  | group (e : Formula .sum) : Formula .atom
  | factor (a : Formula .atom) : Formula .product
  | apply (o : Formula.Operator) (p : Formula .product) (a : Formula .atom) : Formula .product
  | summand (p : Formula .product) : Formula .sum
  | plus (e : Formula .sum) (p : Formula .product) : Formula .sum

namespace Formula

def text : {rank : Rank} → Formula rank → String
  | _, name x => x.text
  | _, number n long => toString n ++ if long then "L" else ""
  | _, group e => "(" ++ e.text ++ ")"
  | _, factor a => a.text
  | _, apply o p a => p.text ++ " " ++ o.text ++ " " ++ a.text
  | _, summand p => p.text
  | _, plus e p => e.text ++ " + " ++ p.text

/-- What the names stand for. -/
structure Scene where
  index : Int
  count : Int
  frame : Int

def Scene.value (s : Scene) : Name → Int
  | .index => s.index
  | .count => s.count
  | .frame => s.frame

def value (s : Scene) : {rank : Rank} → Formula rank → Int
  | _, name x => s.value x
  | _, number n _ => n
  | _, group e => e.value s
  | _, factor a => a.value s
  | _, apply o p a => o.apply (p.value s) (a.value s)
  | _, summand p => p.value s
  | _, plus e p => e.value s + p.value s

/-- The results of all operations, the last of them included. -/
def intermediates (s : Scene) : {rank : Rank} → Formula rank → List Int
  | _, name _ | _, number _ _ => []
  | _, group e => e.intermediates s
  | _, factor a => a.intermediates s
  | _, apply o p a =>
    p.intermediates s ++ a.intermediates s ++ [o.apply (p.value s) (a.value s)]
  | _, summand p => p.intermediates s
  | _, plus e p => e.intermediates s ++ p.intermediates s ++ [e.value s + p.value s]

end Formula

namespace Rainbow

open Formula (Scene)

/-! ## The formula of the rainbow -/

/-- The hue that an LED has by its place on the strip. -/
def placeHue : Formula .product :=
  .apply .div (.apply .mul (.factor (.name .index)) (.number 256 true)) (.name .count)

/-- The hue by which a frame has moved. -/
def frameHue : Formula .product :=
  .apply .div (.apply .mul
    (.factor (.group (.summand (.apply .mod (.factor (.name .frame)) (.number 180 false)))))
    (.number 256 false)) (.number 180 false)

def hue : Formula .product :=
  .apply .mod (.factor (.group (.plus (.summand placeHue) frameHue))) (.number 256 false)

/-- **The formula is the one in the snippet**, where it is the whole value of the hue. -/
theorem snippet_eq_lines : PatternId.rainbow.snippet =
    Snippet.lines
      ["for(int i = 0; i < NUM_LEDS; i++) \x7b",
       "    uint8_t hue = " ++ hue.text ++ ";",
       "    leds[i] = CHSV(hue, 255, 255);",
       "  \x7d"] := by
  decide +kernel

variable {i n frame : Int}

theorem place_nonneg (hn : 1 ≤ n) (hi : 0 ≤ i) : 0 ≤ i * 256 / n :=
  Int.ediv_nonneg (by omega) (by omega)

theorem place_lt (hn : 1 ≤ n) (hlt : i < n) : i * 256 / n < 256 :=
  Int.ediv_lt_of_lt_mul (by omega) (by omega)

theorem placeHue_value (hi : 0 ≤ i) : placeHue.value ⟨i, n, frame⟩ = i * 256 / n := by
  simp only [placeHue, Formula.value, Formula.Operator.apply, Scene.value]
  rw [Int.tdiv_eq_ediv_of_nonneg (by omega)]
  rfl

theorem frameHue_value (hframe : 0 ≤ frame) :
    frameHue.value ⟨i, n, frame⟩ = frame % 180 * 256 / 180 := by
  simp only [frameHue, Formula.value, Formula.Operator.apply, Scene.value]
  rw [Int.tmod_eq_emod_of_nonneg hframe, Int.tdiv_eq_ediv_of_nonneg (by omega)]
  rfl

/-- Where nothing is negative, the remainders and quotients are the usual ones. -/
theorem hue_value (hn : 1 ≤ n) (hi : 0 ≤ i) (hframe : 0 ≤ frame) :
    hue.value ⟨i, n, frame⟩ = (i * 256 / n + frame % 180 * 256 / 180) % 256 := by
  have hplace := place_nonneg hn hi
  have hvalue : hue.value ⟨i, n, frame⟩ =
      (placeHue.value ⟨i, n, frame⟩ + frameHue.value ⟨i, n, frame⟩).tmod 256 := rfl
  rw [hvalue, placeHue_value hi, frameHue_value hframe, Int.tmod_eq_emod_of_nonneg (by omega)]

/-- **Every intermediate result fits into 32 bits**, and none is negative. -/
theorem intermediates_le (hn : 1 ≤ n) (hmax : n ≤ 32767) (hi : 0 ≤ i) (hlt : i < n)
    (hframe : 0 ≤ frame) {v : Int} (hv : v ∈ hue.intermediates ⟨i, n, frame⟩) :
    0 ≤ v ∧ v ≤ 2 ^ 31 - 1 := by
  have hplace := place_nonneg hn hi
  have hplace' := place_lt hn hlt
  have hlist : hue.intermediates ⟨i, n, frame⟩ =
      [i * 256, placeHue.value ⟨i, n, frame⟩, frame.tmod 180, frame.tmod 180 * 256,
        frameHue.value ⟨i, n, frame⟩,
        placeHue.value ⟨i, n, frame⟩ + frameHue.value ⟨i, n, frame⟩,
        hue.value ⟨i, n, frame⟩] := rfl
  rw [hlist, placeHue_value hi, frameHue_value hframe, hue_value hn hi hframe,
    Int.tmod_eq_emod_of_nonneg hframe] at hv
  simp only [List.mem_cons, List.not_mem_nil, or_false] at hv
  rcases hv with rfl | rfl | rfl | rfl | rfl | rfl | rfl <;> omega

/-- **The formula repeats every 180 frames**, and no hue is back before. -/
theorem hue_repeats (hn : 1 ≤ n) (hi : 0 ≤ i) (hframe : 0 ≤ frame) {later : Int}
    (hlater : 0 ≤ later) :
    hue.value ⟨i, n, later⟩ = hue.value ⟨i, n, frame⟩ ↔ later % 180 = frame % 180 := by
  rw [hue_value hn hi hlater, hue_value hn hi hframe]
  generalize i * 256 / n = place
  constructor
  · intro h
    have hmoved : later % 180 * 256 / 180 = frame % 180 * 256 / 180 := by omega
    omega
  · intro h
    rw [h]

/-! ## The hue of the preview -/

/-- The remainder of a rational by a positive one, from zero up to it. -/
def remainder (x m : Rat) : Rat := x - ⌊x / m⌋ * m

/-- The hue of the preview in degrees. -/
def previewDegrees (i n frame : Int) : Rat := remainder ((i : Rat) / n * 360 + frame * 2) 360

/-- The hue of the preview in the units of a sketch. -/
def previewHue (i n frame : Int) : Rat := previewDegrees i n frame * (256 / 360)

/-- The shorter of the two ways between two hues around the circle. -/
def hueDistance (a b : Rat) : Rat := min (remainder (a - b) 256) (remainder (b - a) 256)

theorem remainder_eq_fract (x : Rat) {m : Rat} (hm : m ≠ 0) :
    remainder x m = Int.fract (x / m) * m := by
  rw [remainder, Int.fract, sub_mul, div_mul_cancel₀ x hm]

theorem remainder_eq {x m r : Rat} (hlow : 0 ≤ r) (hhigh : r < m) {k : Int} (h : x = r + k * m) :
    remainder x m = r := by
  have hm : 0 < m := hlow.trans_lt hhigh
  have hdiv : x / m = r / m + k := by
    rw [h]
    field_simp
  have hunit : Int.fract (r / m) = r / m :=
    Int.fract_eq_self.mpr ⟨div_nonneg hlow hm.le, (div_lt_one hm).mpr hhigh⟩
  rw [remainder_eq_fract x hm.ne', hdiv, Int.fract_add_intCast, hunit, div_mul_cancel₀ r hm.ne']

theorem previewDegrees_eq (i n frame : Int) :
    previewDegrees i n frame = Int.fract ((i : Rat) / n + frame / 180) * 360 := by
  have hturns : ((i : Rat) / n * 360 + frame * 2) / 360 = i / n + frame / 180 := by ring
  rw [previewDegrees, remainder_eq_fract _ (by norm_num), hturns]

/-- What a quotient of integers loses when it is rounded down. -/
def loss (x d : Int) : Rat := x / d - (x / d : Int)

theorem loss_bounds (x : Int) {d : Int} (hd : 0 ≤ d) : 0 ≤ loss x d ∧ loss x d < 1 := by
  obtain ⟨m, rfl⟩ := Int.eq_ofNat_of_zero_le hd
  rw [loss, Int.cast_natCast, ← Rat.floor_intCast_div_natCast]
  exact ⟨Int.fract_nonneg _, Int.fract_lt_one _⟩

/-- What the formula loses for the place and for the frame is what it is behind, up to full rounds. -/
theorem previewHue_sub_hue (hn : 1 ≤ n) (hi : 0 ≤ i) (hframe : 0 ≤ frame) : ∃ rounds : Int,
    previewHue i n frame - hue.value ⟨i, n, frame⟩ =
      loss (i * 256) n + loss (frame % 180 * 256) 180 + rounds * 256 := by
  have hframes : (frame : Rat) = 180 * (frame / 180 : Int) + (frame % 180 : Int) := by
    exact_mod_cast (Int.mul_ediv_add_emod frame 180).symm
  have hsketch : (hue.value ⟨i, n, frame⟩ : Rat) =
      (i * 256 / n : Int) + (frame % 180 * 256 / 180 : Int) -
        256 * ((i * 256 / n + frame % 180 * 256 / 180) / 256 : Int) := by
    rw [hue_value hn hi hframe]
    exact_mod_cast Int.emod_def _ 256
  refine ⟨frame / 180 - ⌊(i : Rat) / n + frame / 180⌋ +
    (i * 256 / n + frame % 180 * 256 / 180) / 256, ?_⟩
  rw [previewHue, previewDegrees_eq, Int.fract, hsketch, loss, loss]
  push_cast
  nth_rewrite 1 [hframes]
  ring

/-- **The formula is behind the preview by less than two units.** It loses less than one where the
place is rounded down, and less than one where the frame is. -/
theorem hueDistance_lt (hn : 1 ≤ n) (hi : 0 ≤ i) (hframe : 0 ≤ frame) :
    hueDistance (hue.value ⟨i, n, frame⟩) (previewHue i n frame) < 2 := by
  obtain ⟨hplace, hplace'⟩ := loss_bounds (i * 256) (by omega : 0 ≤ n)
  obtain ⟨hmoved, hmoved'⟩ := loss_bounds (frame % 180 * 256) (by decide : (0 : Int) ≤ 180)
  obtain ⟨rounds, hrounds⟩ := previewHue_sub_hue hn hi hframe
  have hbehind := remainder_eq (m := 256) (add_nonneg hplace hmoved) (by linarith) hrounds
  apply lt_of_le_of_lt (min_le_right _ _)
  rw [hbehind]
  linarith

/-- **The preview repeats every 180 frames**, and no hue is back before. -/
theorem previewHue_repeats (i n frame later : Int) :
    previewHue i n later = previewHue i n frame ↔ later % 180 = frame % 180 := by
  have hscale : (256 / 360 : Rat) ≠ 0 := by norm_num
  have hcircle : (360 : Rat) ≠ 0 := by norm_num
  rw [previewHue, previewHue, mul_left_inj' hscale, previewDegrees_eq, previewDegrees_eq,
    mul_left_inj' hcircle, Int.fract_eq_fract]
  constructor
  · rintro ⟨turns, hturns⟩
    have hframes : (later : Rat) = frame + 180 * turns := by linarith
    have hint : later = frame + 180 * turns := by exact_mod_cast hframes
    omega
  · intro h
    have hint : later = frame + 180 * (later / 180 - frame / 180) := by omega
    refine ⟨later / 180 - frame / 180, ?_⟩
    have hframes : (later : Rat) = frame + 180 * (later / 180 - frame / 180 : Int) := by
      exact_mod_cast hint
    linarith

end Rainbow

/-! ## The rule of the preview -/

namespace Double

variable {p q : Rat}

/-- What is not negative has its remainder without rounding. -/
theorem modRat_eq (hp : 0 ≤ p) (hq : 0 < q) :
    (finite p).modRat q = .finite (Rainbow.remainder p q) := by
  have hfloor : truncate (p / q) = ⌊p / q⌋ := if_pos (div_nonneg hp hq.le)
  have hrest : ¬Rainbow.remainder p q < 0 := by
    rw [Rainbow.remainder_eq_fract p hq.ne', not_lt]
    exact mul_nonneg (Int.fract_nonneg _) hq.le
  simp only [modRat, rational?, hfloor]
  exact if_neg hrest

end Double

namespace Rainbow

open Double (IsBinary64)

variable {i n frame : Int}

/-- Every step on the way to a hue of the preview is a double. -/
structure Unrounded (i n frame : Int) : Prop where
  share : IsBinary64 ((i : Rat) / n)
  place : IsBinary64 ((i : Rat) / n * 360)
  shift : IsBinary64 ((frame * 2 : Int) : Rat)
  sum : IsBinary64 ((i : Rat) / n * 360 + (frame * 2 : Int))

/-- **Where nothing is rounded, the preview shows its hue exactly.** -/
theorem rule_eq_ofHsl (hn : 1 ≤ n) (hi : 0 ≤ i) (hframe : 0 ≤ frame) (h : Unrounded i n frame) :
    Rule.rainbow i frame n =
      Color.ofHsl (.float (.finite (previewDegrees i n frame))) (.int 100) (.int 50) := by
  have hshare : (0 : Rat) ≤ (i : Rat) / n :=
    div_nonneg (by exact_mod_cast hi) (by exact_mod_cast (by omega : 0 ≤ n))
  have hplace : (0 : Rat) ≤ (i : Rat) / n * 360 := mul_nonneg hshare (by norm_num)
  have hshift : (0 : Rat) ≤ ((frame * 2 : Int) : Rat) := by
    exact_mod_cast (by omega : 0 ≤ frame * 2)
  have hsum := Double.modRat_eq (add_nonneg hplace hshift) (q := 360) (by norm_num)
  have hdegrees : previewDegrees i n frame =
      remainder ((i : Rat) / n * 360 + (frame * 2 : Int)) 360 := by
    rw [previewDegrees]
    push_cast
    rfl
  simp only [Rule.rainbow, h.share.quotient_eq (by omega), h.shift.ofInt_eq, bind, Except.bind,
    IsBinary64.mul_eq hshare (by norm_num) h.place, h.sum.add_eq, hsum, hdegrees]

/-- Nothing is rounded for a strip whose length is a power of two. -/
theorem unrounded_of_two_pow {k : Nat} (hk : k ≤ 14) (hi : 0 ≤ i) (hlt : i < 2 ^ k)
    (hframe : 0 ≤ frame) (hlast : frame < 2 ^ 37) : Unrounded i (2 ^ k) frame := by
  have hpow : (2 : Int) ^ k ≤ 2 ^ 14 := pow_le_pow_right₀ (by norm_num) hk
  have hpos : (0 : Int) < 2 ^ k := by positivity
  have hdiv (m : Int) : (m : Rat) / ((2 ^ k : Int) : Rat) = m * 2 ^ (-k : Int) := by
    push_cast
    rw [zpow_neg, zpow_natCast, div_eq_mul_inv]
  have hbinary (m : Int) (hlow : 0 ≤ m) (hhigh : m < 2 ^ 53) :
      IsBinary64 ((m : Rat) / ((2 ^ k : Int) : Rat)) :=
    ⟨m, -k, by rw [abs_of_nonneg hlow]; exact hhigh, by omega, by omega, hdiv m⟩
  have hshift : (0 : Int) ≤ frame * 2 * 2 ^ k := by positivity
  have hshift' : frame * 2 * 2 ^ k ≤ 2 ^ 38 * 2 ^ 14 := by
    apply mul_le_mul <;> omega
  have hplace : (i : Rat) / ((2 ^ k : Int) : Rat) * 360 = (i * 360 : Int) / ((2 ^ k : Int) : Rat) := by
    push_cast
    ring
  have hsum : (i : Rat) / ((2 ^ k : Int) : Rat) * 360 + (frame * 2 : Int) =
      (i * 360 + frame * 2 * 2 ^ k : Int) / ((2 ^ k : Int) : Rat) := by
    have hne : ((2 ^ k : Int) : Rat) ≠ 0 := by exact_mod_cast hpos.ne'
    rw [hplace]
    field_simp
    push_cast
    ring
  refine ⟨hbinary i hi (by omega), ?_, Double.isBinary64_intCast ?_, ?_⟩
  · rw [hplace]
    exact hbinary _ (by omega) (by omega)
  · rw [abs_of_nonneg (by omega)]
    omega
  · rw [hsum]
    exact hbinary _ (by omega) (by omega)

/-- **The rainbow of a sketch tracks the preview.** The snippet computes the hue by this formula; for
every strip that its integers can number, every LED and every frame, the hue is less than two units away
from the preview's, however long it runs. Nothing that the formula goes through is too large for 32
bits. Both hues are back in the frames that are a multiple of 180 away and in no others. The preview's
hue is the one that its rule shows where none of its steps is rounded. -/
theorem hue_tracks_preview (hn : 1 ≤ n) (hmax : n ≤ 32767) (hi : 0 ≤ i) (hlt : i < n)
    (hframe : 0 ≤ frame) :
    (PatternId.rainbow.snippet = Snippet.lines
      ["for(int i = 0; i < NUM_LEDS; i++) \x7b", "    uint8_t hue = " ++ hue.text ++ ";",
       "    leds[i] = CHSV(hue, 255, 255);", "  \x7d"]) ∧
    hueDistance (hue.value ⟨i, n, frame⟩) (previewHue i n frame) < 2 ∧
    (∀ v ∈ hue.intermediates ⟨i, n, frame⟩, 0 ≤ v ∧ v ≤ 2 ^ 31 - 1) ∧
    (∀ later, 0 ≤ later →
      (hue.value ⟨i, n, later⟩ = hue.value ⟨i, n, frame⟩ ↔
        later % 180 = frame % 180)) ∧
    (∀ later, previewHue i n later = previewHue i n frame ↔ later % 180 = frame % 180) ∧
    (Unrounded i n frame → Rule.rainbow i frame n =
      Color.ofHsl (.float (.finite (previewDegrees i n frame))) (.int 100) (.int 50)) := by
  refine ⟨snippet_eq_lines, hueDistance_lt hn hi hframe, ?_, ?_, ?_, ?_⟩
  · intro v hv
    exact intermediates_le hn hmax hi hlt hframe hv
  · intro later hlater
    exact hue_repeats hn hi hframe hlater
  · intro later
    exact previewHue_repeats i n frame later
  · intro h
    exact rule_eq_ofHsl hn hi hframe h

/-- The fourth of eight LEDs in frame 1000: the sketch has 96 units for the place and 142 for the frame,
and the preview has 335 degrees. -/
theorem hue_tracks_preview_eight :
    (1 : Int) ≤ 8 ∧ (8 : Int) ≤ 32767 ∧ (0 : Int) ≤ 3 ∧ (3 : Int) < 8 ∧ (0 : Int) ≤ 1000 ∧
    hue.value ⟨3, 8, 1000⟩ = 238 ∧ previewDegrees 3 8 1000 = 335 ∧
    hueDistance (hue.value ⟨3, 8, 1000⟩) (previewHue 3 8 1000) < 2 ∧
    hue.value ⟨3, 8, 1180⟩ = hue.value ⟨3, 8, 1000⟩ ∧
    Rule.rainbow 3 1000 8 = Color.ofHsl (.float (.finite 335)) (.int 100) (.int 50) := by
  have hdegrees : previewDegrees 3 8 1000 = 335 := by decide +kernel
  have hunrounded : Unrounded 3 8 1000 :=
    unrounded_of_two_pow (k := 3) (by decide) (by decide) (by decide) (by decide) (by decide)
  obtain ⟨-, hdistance, -, hback, -, hrule⟩ := @hue_tracks_preview 3 8 1000 (by decide) (by decide)
    (by decide) (by decide) (by decide)
  refine ⟨by decide, by decide, by decide, by decide, by decide, by decide, hdegrees, hdistance,
    (hback 1180 (by decide)).mpr (by decide), ?_⟩
  rw [← hdegrees]
  exact hrule hunrounded

end Rainbow
end LedStudio
