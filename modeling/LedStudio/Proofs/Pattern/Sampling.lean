import LedStudio.Proofs.Pattern.Brightness
import LedStudio.Proofs.Pattern.Frame

/-!
# Frames of random patterns

A frame of a random pattern never fails if its random numbers are from zero up to one: it reads one
number for each LED, in order, and each LED is coloured by its own.

* `ledsFrom_painted` — LEDs whose colours never fail.
* `computeFrame_random` — a frame of fire or sparkle.
-/

namespace LedStudio

/-- A number from zero up to, but not including, one. -/
def Double.IsUnit (x : Double) : Prop := ∃ q, x.rational? = some q ∧ 0 ≤ q ∧ q < 1

theorem Double.IsUnit.within {x : Double} (h : x.IsUnit) : Double.Within 1 x := by
  obtain ⟨q, hq, hlow, hhigh⟩ := h
  exact ⟨q, hq, by linarith, hhigh.le⟩

/-! ## Colours -/

theorem Rule.fire_ok {x : Double} (h : x.IsUnit) : ∃ c, Rule.fire x = .ok c := by
  have hlevel :=
    (h.within.mul Double.half_within (by norm_num)).add Double.half_within (by norm_num)
  have htimes {n : Rat} (hlow : 0 ≤ n) (hhigh : n ≤ 255) :
      ∃ k, (Double.mul (.finite n) ((x.mul .half).add .half)).roundHalfAway = .ok k := by
    have hn : Double.Within 255 (.finite n) := Double.within_finite (by linarith) hhigh
    exact (hn.mul hlevel (by norm_num)).roundHalfAway (by norm_num)
  obtain ⟨red, hred⟩ := htimes (n := 255) (by norm_num) (by norm_num)
  obtain ⟨green, hgreen⟩ := htimes (n := 100) (by norm_num) (by norm_num)
  exact ⟨Color.ofInts red green 0, by simp only [Rule.fire, hred, hgreen, bind, Except.bind]; rfl⟩

/-- Random patterns give a colour for every random number. -/
theorem paint_random {p : PatternId} (hp : p.isRandom = true) (i frame count : Int) {x : Double}
    (h : x.IsUnit) : ∃ c, paint (some p) i frame count x = .ok c := by
  cases p with
  | fire => exact Rule.fire_ok h
  | sparkle => exact ⟨_, rfl⟩
  | _ => cases hp

/-! ## LEDs -/

/-- The colour of an LED at a brightness. -/
def painted (pattern : Option PatternId) (frame count : Int) (brightness : Value) (i : Int)
    (x : Double) : Outcome Color :=
  (paint pattern i frame count x).bind (·.withBrightness brightness)

/-- Where no colour fails, LED `k` is coloured by the `k`-th of the numbers that are read. -/
theorem ledsFrom_painted {pattern : Option PatternId} {frame count : Int} {brightness : Value}
    {stream : Stream}
    (h : ∀ i k, ∃ c, painted pattern frame count brightness i (stream.sample k) = .ok c)
    (left : Nat) (i : Int) (done : List Color) (drawn : Nat) : ∃ leds,
    ledsFrom pattern frame count brightness left i done { stream with drawn := drawn } =
      (.ok (done.reverse ++ leds), { stream with drawn := drawn + draws pattern * left }) ∧
    leds.length = left ∧ ∀ k < left, ∃ c, leds[k]? = some c ∧
      painted pattern frame count brightness (i + k)
        (stream.sample (drawn + draws pattern * k)) = .ok c := by
  induction left generalizing i done drawn with
  | zero =>
    exact ⟨[], by simp only [ledsFrom, List.append_nil, Nat.mul_zero, Nat.add_zero], rfl, nofun⟩
  | succ left ih =>
    obtain ⟨color, hcolor⟩ := h i drawn
    obtain ⟨leds, hleds, hlength, hpaint⟩ := ih (i + 1) (color :: done) (drawn + draws pattern)
    refine ⟨color :: leds, ?_, by rw [List.length_cons, hlength], fun k hk => ?_⟩
    · have hnext : drawn + draws pattern + draws pattern * left =
          drawn + draws pattern * (left + 1) := by
        rw [Nat.mul_succ]
        omega
      have hfirst : ((paint pattern i frame count (stream.sample drawn)).bind
          (·.withBrightness brightness)) = .ok color := hcolor
      simp only [ledsFrom, ledColor, Stream.head, Stream.skip, hfirst]
      rw [hleds, hnext, List.reverse_cons, List.append_assoc]
      rfl
    · cases k with
      | zero => exact ⟨color, rfl, by simpa using hcolor⟩
      | succ k =>
        obtain ⟨c, hc, hpainted⟩ := hpaint k (Nat.lt_of_succ_lt_succ hk)
        refine ⟨c, hc, ?_⟩
        have hplace : i + 1 + (k : Int) = i + ((k + 1 : Nat) : Int) := by omega
        have hindex : drawn + draws pattern + draws pattern * k =
            drawn + draws pattern * (k + 1) := by
          rw [Nat.mul_succ]
          omega
        rwa [hplace, hindex] at hpainted

theorem PatternRef.resolve_random {ref : PatternRef} (h : ¬ref.isDeterministic = true) :
    ∃ p, ref.resolve = some p ∧ p.isRandom = true := by
  unfold isDeterministic at h
  cases hp : ref.resolve with
  | none => simp only [hp, not_true_eq_false] at h
  | some p => exact ⟨p, rfl, by simpa only [hp, Bool.not_eq_true', Bool.not_eq_false] using h⟩

/-- **A frame of a random pattern** is computed from one random number for each LED. -/
theorem computeFrame_random {ref : PatternRef} {p : PatternId} (hp : ref.resolve = some p)
    (hrandom : p.isRandom = true) {n : Int} (hn : 1 ≤ n) (b : Int) (frame : Nat)
    {stream : Stream} (hstream : ∀ k, (stream.sample k).IsUnit) :
    let picture := computeFrame ref (.int n) frame (.int b) stream
    picture.stream = stream.skip n.toNat ∧ ∃ leds, picture.leds = .ok leds ∧ leds.length = n.toNat ∧
      ∀ k < n.toNat, ∃ c, leds[k]? = some c ∧
        painted (some p) frame n (.int b) k (stream.sample (stream.drawn + k)) = .ok c := by
  have hpainted (i : Int) (k : Nat) :
      ∃ c, painted (some p) frame n (.int b) i (stream.sample k) = .ok c := by
    obtain ⟨c, hc⟩ := paint_random hrandom i frame n (hstream k)
    obtain ⟨d, hd⟩ : ∃ d, c.withBrightness (.int b) = .ok d := c.withBrightness_ok rfl
    exact ⟨d, by rw [painted, hc]; exact hd⟩
  have hdraws : draws (some p) = 1 := by simp only [draws, hrandom, if_true]
  have hsize : frameSize (.int n) frame = .ok n := by
    have hframe : ¬(frame : Int) < 0 := by omega
    simp only [frameSize, clampLedCount_int hn, bind, Except.bind, if_neg hframe]
    rfl
  obtain ⟨leds, hleds, hlength, hpaint⟩ :=
    ledsFrom_painted hpainted n.toNat 0 [] stream.drawn
  simp only [hdraws, Nat.one_mul, List.reverse_nil, List.nil_append, Int.zero_add] at hleds hpaint
  intro picture
  have hpicture : picture = ⟨.ok leds, stream.skip n.toNat, []⟩ := by
    simp only [picture, computeFrame, hsize, hp]
    rw [hleds]
    rfl
  rw [hpicture]
  exact ⟨rfl, leds, rfl, hlength, hpaint⟩

end LedStudio
