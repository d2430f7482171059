import LedStudio.Pattern.Frame
import LedStudio.Proofs.Strip

/-!
# What a frame is made of

* `computeFrame_length`, `computeFrame_led` — a frame has as many colours as the strip has LEDs, and
  each is painted by itself.
* `computeFrame_raises` — a brightness that is no number lets no frame be painted.
* `computeFrame_leds_eq`, `computeFrame_stream` — unless the pattern is a random one, the colours do
  not hang on the random numbers, and none are read.
* `ledsFrom_drawn` — a frame that is computed has read the numbers of all its LEDs.
-/

namespace LedStudio

theorem ledsFrom_length {pattern : Option PatternId} {frame count : Int} {brightness : Value}
    {left : Nat} {i : Int} {done leds : List Color} {stream : Stream}
    (h : (ledsFrom pattern frame count brightness left i done stream).1 = .ok leds) :
    leds.length = done.length + left := by
  induction left generalizing i done stream with
  | zero =>
    simp only [ledsFrom, Except.ok.injEq] at h
    subst h
    exact List.length_reverse
  | succ left ih =>
    simp only [ledsFrom] at h
    split at h
    · cases h
    · rw [ih h, List.length_cons]
      omega

/-- A number of LEDs that is a positive integer is taken as it is. -/
theorem frameSize_int {n frame count : Int} (hn : 1 ≤ n)
    (h : frameSize (.int n) frame = .ok count) : count = n := by
  simp only [frameSize, clampLedCount_int hn, bind, Except.bind] at h
  split at h
  · cases h
  · exact (Except.ok.inj h).symm

theorem computeFrame_length {ref : PatternRef} {n frame : Int} {brightness : Value}
    {stream : Stream} {leds : List Color} (hn : 1 ≤ n)
    (h : (computeFrame ref (.int n) frame brightness stream).leds = .ok leds) :
    (leds.length : Int) = n := by
  unfold computeFrame at h
  split at h
  · cases h
  · rename_i count hsize
    have hcount := frameSize_int hn hsize
    have hlength := ledsFrom_length h
    rw [List.length_nil] at hlength
    omega

/-! ## Frames that cannot be painted -/

theorem frameSize_pos {ledCount : Value} {frame n : Int} (h : frameSize ledCount frame = .ok n) :
    1 ≤ n := by
  unfold frameSize at h
  cases hcount : clampLedCount ledCount with
  | error f => simp [hcount, bind, Except.bind] at h
  | ok m =>
    simp only [hcount, bind, Except.bind] at h
    split at h
    · cases h
    · cases h
      exact clampLedCount_pos hcount

/-- With a brightness that is no number, no frame can be painted: there is at least one LED. -/
theorem computeFrame_raises {brightness : Value} (h : brightness.number? = none)
    (ref : PatternRef) (ledCount : Value) (frame : Int) (stream : Stream) :
    ∃ f, (computeFrame ref ledCount frame brightness stream).leds = .error f := by
  unfold computeFrame
  cases hsize : frameSize ledCount frame with
  | error f => exact ⟨f, rfl⟩
  | ok count =>
    have hpos := frameSize_pos hsize
    obtain ⟨left, hleft⟩ : ∃ left, count.toNat = left + 1 := ⟨count.toNat - 1, by omega⟩
    rcases hcolor : ledColor ref.resolve 0 frame count stream with ⟨_ | color, rest⟩
    · exact ⟨_, by simp only [hleft, ledsFrom, hcolor, Except.bind]; rfl⟩
    · refine ⟨.notOrdered "<" brightness.kind .float, ?_⟩
      simp only [hleft, ledsFrom, hcolor, Except.bind, Color.withBrightness,
        Color.brightnessFactorOf, h, bind]

/-! ## Random numbers -/

/-- Only random patterns look at the random number. -/
theorem paint_sample {pattern : Option PatternId}
    (h : ∀ p, pattern = some p → p.isRandom = false) (i frame count : Int) (x y : Double) :
    paint pattern i frame count x = paint pattern i frame count y := by
  cases pattern with
  | none => rfl
  | some p =>
    have hp := h p rfl
    cases p with
    | fire => cases hp
    | sparkle => cases hp
    | _ => rfl

theorem ledsFrom_stream {pattern : Option PatternId}
    (h : ∀ p, pattern = some p → p.isRandom = false) (frame count : Int) (brightness : Value)
    (left : Nat) (i : Int) (done : List Color) (stream other : Stream) :
    (ledsFrom pattern frame count brightness left i done stream).1 =
      (ledsFrom pattern frame count brightness left i done other).1 := by
  induction left generalizing i done stream other with
  | zero => rfl
  | succ left ih =>
    simp only [ledsFrom, ledColor, paint_sample h i frame count stream.head other.head]
    cases (paint pattern i frame count other.head).bind (·.withBrightness brightness) with
    | error f => rfl
    | ok color => exact ih _ _ _ _

theorem computeFrame_leds_eq {ref : PatternRef} (h : ref.isDeterministic = true)
    (ledCount : Value) (frame : Int) (brightness : Value) (stream other : Stream) :
    (computeFrame ref ledCount frame brightness stream).leds =
      (computeFrame ref ledCount frame brightness other).leds := by
  have hresolve : ∀ p, ref.resolve = some p → p.isRandom = false := by
    intro p hp
    simpa [PatternRef.isDeterministic, hp] using h
  unfold computeFrame
  cases frameSize ledCount frame with
  | error f => rfl
  | ok count => exact ledsFrom_stream hresolve frame count brightness count.toNat 0 [] stream other

theorem Stream.skip_skip (s : Stream) (a b : Nat) : (s.skip a).skip b = s.skip (a + b) := by
  simp only [skip, Nat.add_assoc]

/-! ## LED by LED -/

/-- The colours that are computed are those of the LEDs that were left, each painted with the random
numbers that are its own. -/
theorem ledsFrom_leds {pattern : Option PatternId} {frame count : Int} {brightness : Value}
    {left : Nat} {i : Int} {done leds : List Color} {stream : Stream}
    (h : (ledsFrom pattern frame count brightness left i done stream).1 = .ok leds) :
    ∃ new : List Color, leds = done.reverse ++ new ∧ ∀ (j : Nat) (hj : j < new.length),
      (paint pattern (i + j) frame count (stream.skip (draws pattern * j)).head).bind
        (·.withBrightness brightness) = .ok new[j] := by
  induction left generalizing i done stream with
  | zero =>
    simp only [ledsFrom, Except.ok.injEq] at h
    exact ⟨[], by rw [h, List.append_nil], fun j hj => absurd hj (Nat.not_lt_zero j)⟩
  | succ left ih =>
    simp only [ledsFrom] at h
    split at h
    · cases h
    · rename_i color hcolor
      obtain ⟨new, rfl, hnew⟩ := ih h
      refine ⟨color :: new, by simp, fun j hj => ?_⟩
      cases j with
      | zero => simpa [ledColor, Stream.skip] using hcolor
      | succ j =>
        have hlater := hnew j (Nat.lt_of_succ_lt_succ hj)
        rw [ledColor, Stream.skip_skip, Int.add_assoc, ← Nat.mul_one (draws pattern), Nat.mul_assoc,
          ← Nat.mul_add, Nat.one_mul, Nat.add_comm 1 j, Int.add_comm 1] at hlater
        exact hlater

/-- **A frame that is computed is painted LED by LED**, each by the rule of the pattern and then
scaled by the brightness. -/
theorem computeFrame_led {ref : PatternRef} {n frame : Int} {brightness : Value} {stream : Stream}
    {leds : List Color} (hn : 1 ≤ n)
    (h : (computeFrame ref (.int n) frame brightness stream).leds = .ok leds) (i : Nat)
    (hi : i < leds.length) :
    (paint ref.resolve i frame n (stream.skip (draws ref.resolve * i)).head).bind
      (·.withBrightness brightness) = .ok leds[i] := by
  unfold computeFrame at h
  split at h
  · cases h
  · rename_i count hsize
    obtain rfl := frameSize_int hn hsize
    obtain ⟨new, rfl, hnew⟩ := ledsFrom_leds h
    simpa using hnew i hi

/-- Each LED that was tried has read its numbers, and a frame that is computed has tried all. -/
theorem ledsFrom_drawn (pattern : Option PatternId) (frame count : Int) (brightness : Value)
    (left : Nat) (i : Int) (done : List Color) (stream : Stream) : ∃ tried ≤ left,
    (ledsFrom pattern frame count brightness left i done stream).2 =
      stream.skip (draws pattern * tried) ∧
    ∀ leds, (ledsFrom pattern frame count brightness left i done stream).1 = .ok leds →
      tried = left := by
  induction left generalizing i done stream with
  | zero => exact ⟨0, Nat.le_refl 0, rfl, fun _ _ => rfl⟩
  | succ left ih =>
    simp only [ledsFrom, ledColor]
    cases (paint pattern i frame count stream.head).bind (·.withBrightness brightness) with
    | error f =>
      refine ⟨1, Nat.le_add_left 1 left, ?_, nofun⟩
      rw [Nat.mul_one]
    | ok color =>
      obtain ⟨tried, hle, hstream, hall⟩ :=
        ih (i + 1) (color :: done) (stream.skip (draws pattern))
      refine ⟨tried + 1, Nat.succ_le_succ hle, ?_, fun leds h => by rw [hall leds h]⟩
      rw [hstream, Stream.skip_skip, Nat.mul_succ, Nat.add_comm]

/-- A pattern that is not random reads no random numbers. -/
theorem computeFrame_stream {ref : PatternRef} (h : ref.isDeterministic = true) (ledCount : Value)
    (frame : Int) (brightness : Value) (stream : Stream) :
    (computeFrame ref ledCount frame brightness stream).stream = stream := by
  have hdraws : draws ref.resolve = 0 := by
    unfold PatternRef.isDeterministic at h
    unfold draws
    cases hp : ref.resolve with
    | none => rfl
    | some p =>
      rw [hp] at h
      simp only [Bool.not_eq_true'] at h
      simp [h]
  unfold computeFrame
  cases frameSize ledCount frame with
  | error f => rfl
  | ok count =>
    obtain ⟨tried, -, hstream, -⟩ :=
      ledsFrom_drawn ref.resolve frame count brightness count.toNat 0 [] stream
    rw [hdraws, Nat.zero_mul] at hstream
    exact hstream

theorem computeFrame_log_category (ref : PatternRef) (ledCount : Value) (frame : Int)
    (brightness : Value) (stream : Stream) :
    ∀ r ∈ (computeFrame ref ledCount frame brightness stream).log, r.category = .pattern := by
  unfold computeFrame
  intro r hr
  cases hsize : frameSize ledCount frame with
  | error f =>
    rw [hsize] at hr
    cases hr
  | ok count =>
    rw [hsize] at hr
    simp only at hr
    cases hresolve : ref.resolve with
    | some p =>
      rw [hresolve] at hr
      cases hr
    | none =>
      rw [hresolve] at hr
      rw [List.mem_singleton.mp hr]

end LedStudio
