import LedStudio.Proofs.Outcome
import LedStudio.Proofs.Pattern.Whole

/-!
# The shape of a chase

A chase has a head that moves by one LED a frame and starts over behind the last LED. The colour of an
LED is told by its distance from the head alone. The third of a distance is rounded, so for far LEDs
the point is that no rounding leads below one: they are black, as the level is cut off at zero.

* `Rule.chase_eq` — the colour of an LED, from its distance.
* `chase_shape` — the colour of each LED, how many are lit, and when a frame comes back.
-/

namespace LedStudio

/-- The colour at a distance from the head of a chase. -/
def chaseShade : (distance : Nat) → Color
  | 0 => ⟨255, 100, 255⟩
  | 1 => ⟨170, 67, 170⟩
  | 2 => ⟨85, 33, 85⟩
  | _ => .black

theorem chaseShade_far {distance : Nat} (h : 3 ≤ distance) : chaseShade distance = .black := by
  obtain ⟨k, rfl⟩ : ∃ k, distance = k + 3 := ⟨distance - 3, by omega⟩
  rfl

namespace Rule

/-- The colour of a chase at a level. -/
def shade (level : Double) : Outcome Color := do
  let outer ← (level.mul (.finite 255)).roundHalfAway
  let inner ← (level.mul (.finite 100)).roundHalfAway
  return Color.ofInts outer inner outer

/-- The colour of a chase at a distance from its head. -/
def fade (distance : Nat) : Outcome Color := do
  let fading ← Double.quotient distance 3
  shade (Double.max (.finite 0) (.sub .one fading))

theorem chase_eq_fade {count : Int} (hcount : count ≠ 0) (i frame : Int) :
    chase i frame count = fade (i - Int.fmod frame count).natAbs := by
  simp only [chase, if_neg hcount]
  rfl

/-- A third of a distance from three on is rounded to one at least. -/
theorem fading_far {distance : Nat} (hfar : 3 ≤ distance) (hmax : distance ≤ 2 ^ 53) :
    ∃ r : Rat, Double.quotient distance 3 = .ok (.finite r) ∧ 1 ≤ r ∧ r ≤ 2 ^ 52 := by
  have hfar' : (3 : Rat) ≤ distance := by exact_mod_cast hfar
  have hmax' : (distance : Rat) ≤ 2 ^ 53 := by exact_mod_cast hmax
  obtain ⟨r, hr, hsides⟩ :=
    Double.ofRat_between (q := (distance : Rat) / 3) (by linarith) (by linarith)
  have hlow := (hsides 1).1 (by push_cast; linarith)
  have hhigh := (hsides ((2 : Int) ^ 52)).2 (by push_cast; linarith)
  push_cast at hlow hhigh
  refine ⟨r, ?_, hlow, hhigh⟩
  have hround : Double.ofRat (((distance : Int) : Rat) / ((3 : Int) : Rat)) = .finite r := by
    push_cast
    exact Double.eq_finite_of_rational? hr (by linarith)
  have hthree : (3 : Int) ≠ 0 := by decide
  have hzero : (distance : Int) ≠ 0 := by omega
  simp only [Double.quotient, if_neg hthree, if_neg hzero, hround]

/-- What is left of one is cut off at zero. -/
theorem level_far {r : Rat} (hlow : 1 ≤ r) (hhigh : r ≤ 2 ^ 52) :
    Double.max (.finite 0) (.sub .one (.finite r)) = .finite 0 := by
  have hr : r ≠ 0 := by linarith
  obtain ⟨s, hs, hsides⟩ := Double.ofRat_between (q := 1 + -r) (by linarith) (by linarith)
  have hside := (hsides 0).2 (by push_cast; linarith)
  push_cast at hside
  simp only [Double.sub, Double.neg, if_neg hr, Double.one, Double.add]
  exact Double.max_zero_of_nonpos hs hside

theorem fade_eq {distance : Nat} (hmax : distance ≤ 2 ^ 53) :
    fade distance = .ok (chaseShade distance) := by
  match distance with
  | 0 => exact Outcome.eq_ok_of_toOption (by decide +kernel)
  | 1 => exact Outcome.eq_ok_of_toOption (by decide +kernel)
  | 2 => exact Outcome.eq_ok_of_toOption (by decide +kernel)
  | d + 3 =>
    have hfar : 3 ≤ d + 3 := by omega
    obtain ⟨r, hr, hlow, hhigh⟩ := fading_far hfar hmax
    have hdark : shade (.finite 0) = .ok .black := Outcome.eq_ok_of_toOption (by decide +kernel)
    simp only [fade, hr, bind, Except.bind, level_far hlow hhigh, hdark]
    rfl

/-- **The colour of a chase is told by the distance from its head.** -/
theorem chase_eq {count : Int} (hcount : 1 ≤ count) (hmax : count ≤ 2 ^ 53) {i : Int}
    (hi : 0 ≤ i) (hlast : i < count) (frame : Int) :
    chase i frame count = .ok (chaseShade (i - frame % count).natAbs) := by
  have hmod : Int.fmod frame count = frame % count := Int.fmod_eq_emod_of_nonneg frame (by omega)
  have hhead := Int.emod_nonneg frame (by omega : count ≠ 0)
  have hend := Int.emod_lt_of_pos frame (by omega : 0 < count)
  rw [chase_eq_fade (by omega), hmod]
  exact fade_eq (by omega)

end Rule

/-! ## The strip -/

/-- The colours of a chase with its head at an LED. -/
def chaseStrip (size head : Nat) : List Color :=
  (List.range size).map fun (i : Nat) => chaseShade ((i : Int) - head).natAbs

theorem chaseShade_eq_head {distance : Nat} : chaseShade distance = ⟨255, 100, 255⟩ ↔ distance = 0 := by
  match distance with
  | 0 => decide
  | 1 => decide
  | 2 => decide
  | d + 3 => simp [chaseShade, Color.black]

/-- Only the head is in full colour. -/
theorem count_head {size head : Nat} (h : head < size) :
    (chaseStrip size head).count ⟨255, 100, 255⟩ = 1 := by
  have hplace : ∀ i ∈ List.range size,
      ((chaseShade ((i : Int) - head).natAbs == ⟨255, 100, 255⟩) = true ↔ (i == head) = true) := by
    intro i _
    rw [beq_iff_eq, beq_iff_eq, chaseShade_eq_head]
    omega
  have hcount : (List.range size).count head = 1 :=
    List.count_eq_one_of_mem List.nodup_range (List.mem_range.mpr h)
  rw [← hcount, List.count, List.count, chaseStrip, List.countP_map]
  exact List.countP_congr hplace

/-- The head, and two LEDs on both sides of it. -/
theorem countP_lit (size head : Nat) : (chaseStrip size head).countP (· ≠ .black) ≤ 5 := by
  have hnear : (List.range size).filter
      (fun (i : Nat) => decide (chaseShade ((i : Int) - head).natAbs ≠ .black)) ⊆
        [head - 2, head - 1, head, head + 1, head + 2] := by
    intro i hi
    have hlit := of_decide_eq_true (List.mem_filter.mp hi).2
    have hdistance : ((i : Int) - head).natAbs < 3 := by
      by_contra hfar
      exact hlit (chaseShade_far (by omega))
    simp only [List.mem_cons, List.not_mem_nil, or_false]
    omega
  rw [chaseStrip, List.countP_map, List.countP_eq_length_filter]
  exact (List.subperm_of_subset (List.nodup_range.filter _) hnear).length_le

/-- **The shape of a chase.** Let `n` LEDs be at least one and at most `2^53`, and the frame any that
is not below zero. Before the brightness is applied, the colour of each LED hangs on its distance from
the head alone; these colours make up the frame at full brightness. Exactly one LED shows the full
colour of the head, and at most five are lit. After as many frames as there are LEDs, the colours are
the same again, and so is the frame at every brightness. -/
theorem chase_shape {ref : PatternRef} (hchase : ref.resolve = some .chase) {n frame : Int}
    (hn : 1 ≤ n) (hmax : n ≤ 2 ^ 53) (hframe : 0 ≤ frame) (stream : Stream) :
    ∃ leds : List Color, leds.length = n.toNat ∧
      (∀ (i : Nat) (hi : i < leds.length),
        (ledColor ref.resolve i frame n stream).1 = .ok leds[i] ∧
        leds[i] = chaseShade (i - frame % n).natAbs) ∧
      (∀ full : Value, full.IsFull →
        (computeFrame ref (.int n) frame full stream).leds = .ok leds) ∧
      leds.count ⟨255, 100, 255⟩ = 1 ∧ leds.countP (· ≠ .black) ≤ 5 ∧
      (∀ i, ledColor ref.resolve i (frame + n) n stream = ledColor ref.resolve i frame n stream) ∧
      ∀ brightness, computeFrame ref (.int n) (frame + n) brightness stream =
        computeFrame ref (.int n) frame brightness stream := by
  have hhead := Int.emod_nonneg frame (by omega : n ≠ 0)
  have hend := Int.emod_lt_of_pos frame (by omega : 0 < n)
  have hentry : ∀ (i : Nat) (hi : i < (chaseStrip n.toNat (frame % n).toNat).length),
      (chaseStrip n.toNat (frame % n).toNat)[i] = chaseShade (i - frame % n).natAbs := by
    intro i hi
    simp only [chaseStrip, List.getElem_map, List.getElem_range, Int.toNat_of_nonneg hhead]
  have hlength : (chaseStrip n.toNat (frame % n).toNat).length = n.toNat := by
    rw [chaseStrip, List.length_map, List.length_range]
  have hpaint : ∀ (i : Nat) (hi : i < (chaseStrip n.toNat (frame % n).toNat).length) (x : Double),
      paint ref.resolve i frame n x = .ok (chaseStrip n.toNat (frame % n).toNat)[i] := by
    intro i hi x
    rw [hentry i hi, hchase]
    exact Rule.chase_eq hn hmax (by omega) (by omega) frame
  have hagain : ∀ i x, paint ref.resolve i (frame + n) n x = paint ref.resolve i frame n x := by
    intro i x
    have hmod : Int.fmod (frame + n) n = Int.fmod frame n := by
      rw [Int.fmod_eq_emod_of_nonneg _ (by omega), Int.fmod_eq_emod_of_nonneg _ (by omega),
        Int.add_emod_right]
    simp only [hchase, paint, Rule.chase, hmod]
  refine ⟨chaseStrip n.toNat (frame % n).toNat, hlength, fun i hi => ⟨hpaint i hi _, hentry i hi⟩,
    fun full hfull => ?_, count_head (by omega), countP_lit _ _, fun i => ?_, fun brightness => ?_⟩
  · refine computeFrame_of_painted hn hframe hlength (fun i hi x => ?_) stream
    rw [hpaint i hi x]
    exact Color.withBrightness_full _ hfull
  · simp only [ledColor, hagain i]
  · exact computeFrame_recurs hn hframe (by omega) hagain brightness stream

/-- Five LEDs in a late frame, with the head on the last one: the shades do not go on at the other
end. -/
theorem chase_shape_late :
    let ref : PatternRef := .value (.text " Chase ")
    let frame : Int := 10 ^ 20 + 4
    ref.resolve = some .chase ∧ (1 : Int) ≤ 5 ∧ (5 : Int) ≤ 2 ^ 53 ∧ 0 ≤ frame ∧
    (Value.int 100).IsFull ∧
    (computeFrame ref (.int 5) frame (.int 100) sparks).leds =
      .ok [.black, .black, ⟨85, 33, 85⟩, ⟨170, 67, 170⟩, ⟨255, 100, 255⟩] ∧
    computeFrame ref (.int 5) (frame + 5) (.int 10) sparks =
      computeFrame ref (.int 5) frame (.int 10) sparks := by
  intro ref frame
  have hchase : ref.resolve = some .chase := by decide +kernel
  have hframe : 0 ≤ frame := by decide
  obtain ⟨leds, hlength, hentry, hfull, -, -, -, hagain⟩ :=
    chase_shape hchase (n := 5) (by decide) (by decide) hframe sparks
  refine ⟨hchase, by decide, by decide, hframe, Value.isFull_hundred, ?_, hagain (.int 10)⟩
  rw [hfull _ Value.isFull_hundred]
  refine congrArg _ (List.ext_getElem hlength fun i hi hlist => ?_)
  rw [(hentry i hi).2]
  match i with
  | 0 => rfl
  | 1 => rfl
  | 2 => rfl
  | 3 => rfl
  | 4 => rfl
  | i + 5 => exact absurd hlist (by simp)

end LedStudio
