import LedStudio.Proofs.Pattern.Frame

/-!
# A frame is its LEDs

A frame is computed in one go, with a stream of random numbers that is handed on from LED to LED;
a single LED is computed by itself. Both come to the same: each entry of a frame is the LED that is
computed where its own random number stands.

* `ledsFrom_of_leds` — LEDs that can all be computed make up what is computed of them in a row.
* `ledsFrom_congr` — a row of LEDs hangs on the random numbers that it reads, and on no others.
* `frame_is_its_leds` — the length of a frame, its entries, what it reads of the stream, and when it
  is refused.
-/

namespace LedStudio

/-- Fire and sparkle read one number for an LED, and the other patterns none. -/
theorem draws_eq (pattern : Option PatternId) :
    draws pattern = if pattern = some .fire ∨ pattern = some .sparkle then 1 else 0 := by
  cases pattern with
  | none => rfl
  | some p => cases p <;> rfl

/-- The colour of LED `i` at a brightness, computed by itself on a stream. -/
def lit (pattern : Option PatternId) (frame count : Int) (brightness : Value) (stream : Stream)
    (i : Int) : Outcome Color :=
  (ledColor pattern i frame count stream).1.bind (·.withBrightness brightness)

section

variable {pattern : Option PatternId} {frame count : Int} {brightness : Value}

theorem ledsFrom_succ (left : Nat) (i : Int) (done : List Color) (stream : Stream) :
    ledsFrom pattern frame count brightness (left + 1) i done stream =
      match lit pattern frame count brightness stream i with
      | .error fault => (.error fault, stream.skip (draws pattern))
      | .ok color => ledsFrom pattern frame count brightness left (i + 1) (color :: done)
          (stream.skip (draws pattern)) := rfl

/-- If each of the LEDs can be computed by itself, they make up the row. -/
theorem ledsFrom_of_leds {new : List Color} {i : Int} (done : List Color) {stream : Stream}
    (h : ∀ (j : Nat) (hj : j < new.length),
      lit pattern frame count brightness (stream.skip (draws pattern * j)) (i + j) = .ok new[j]) :
    (ledsFrom pattern frame count brightness new.length i done stream).1 =
      .ok (done.reverse ++ new) := by
  induction new generalizing i done stream with
  | nil => simp only [List.length_nil, ledsFrom, List.append_nil]
  | cons color new ih =>
    have hfirst : lit pattern frame count brightness stream i = .ok color := by
      have hzero := h 0 (Nat.zero_lt_succ new.length)
      simpa [Stream.skip] using hzero
    have hrest : ∀ (j : Nat) (hj : j < new.length),
        lit pattern frame count brightness
          ((stream.skip (draws pattern)).skip (draws pattern * j)) (i + 1 + j) = .ok new[j] := by
      intro j hj
      have hnext := h (j + 1) (Nat.succ_lt_succ hj)
      rw [Nat.mul_succ, Nat.add_comm (draws pattern * j), ← Stream.skip_skip] at hnext
      rw [Int.add_assoc, Int.add_comm 1]
      exact hnext
    rw [List.length_cons, ledsFrom_succ, hfirst]
    simp only [ih (color :: done) hrest, List.reverse_cons, List.append_assoc, List.singleton_append]

/-- **A row of LEDs hangs on the random numbers that it reads**, and on no others. -/
theorem ledsFrom_congr {left : Nat} (i : Int) (done : List Color) {stream other : Stream}
    (h : ∀ k < draws pattern * left,
      other.sample (other.drawn + k) = stream.sample (stream.drawn + k)) :
    (ledsFrom pattern frame count brightness left i done other).1 =
      (ledsFrom pattern frame count brightness left i done stream).1 := by
  induction left generalizing i done stream other with
  | zero => rfl
  | succ left ih =>
    have hlit : lit pattern frame count brightness other i =
        lit pattern frame count brightness stream i := by
      by_cases hrandom : draws pattern = 0
      · -- Without a number to read, the rule does not look at the one that is next.
        have hquiet : ∀ p, pattern = some p → p.isRandom = false := by
          rintro p rfl
          simpa [draws] using hrandom
        simp only [lit, ledColor, paint_sample hquiet i frame count other.head stream.head]
      · have hhead : other.head = stream.head :=
          h 0 (Nat.mul_pos (Nat.pos_of_ne_zero hrandom) (Nat.succ_pos left))
        simp only [lit, ledColor, hhead]
    have hrest : ∀ k < draws pattern * left,
        (other.skip (draws pattern)).sample ((other.skip (draws pattern)).drawn + k) =
          (stream.skip (draws pattern)).sample ((stream.skip (draws pattern)).drawn + k) := by
      intro k hk
      have hlater := h (draws pattern + k) (by rw [Nat.mul_succ]; omega)
      simpa only [Stream.skip, Nat.add_assoc] using hlater
    rw [ledsFrom_succ, ledsFrom_succ, hlit]
    cases lit pattern frame count brightness stream i with
    | error f => rfl
    | ok color => exact ih (i + 1) (color :: done) hrest

end

/-! ## The checks before a frame -/

theorem frameSize_nonneg {n frame : Int} (hn : 0 ≤ n) (hframe : 0 ≤ frame) :
    frameSize (.int n) frame = .ok (max 1 n) := by
  have hcount : ¬n < 0 := by omega
  have hnot : ¬frame < 0 := by omega
  simp only [frameSize, clampLedCount, settingInt, bind, Except.bind, hcount, hnot, if_false, pure,
    Except.pure, IntRange.clampInt, ledCountRange]

/-- A number below zero is refused, for the LEDs before it is for the frame. -/
theorem frameSize_negative {n frame : Int} (h : n < 0 ∨ frame < 0) :
    ∃ f, frameSize (.int n) frame = .error f ∧ f.label = "ValueError" := by
  by_cases hn : n < 0
  · refine ⟨if isWritableInt n then .negativeLedCount n else .unwritableInteger, ?_, ?_⟩
    · simp only [frameSize, clampLedCount, settingInt, bind, Except.bind, hn, if_true, throw,
        throwThe, MonadExceptOf.throw]
    · split <;> rfl
  · have hframe : frame < 0 := h.resolve_left hn
    refine ⟨.negativeFrame frame, ?_, rfl⟩
    simp only [frameSize, clampLedCount, settingInt, bind, Except.bind, hn, hframe, if_false,
      if_true, pure, Except.pure, throw, throwThe, MonadExceptOf.throw]

section

variable {ref : PatternRef} {n frame : Int} {brightness : Value} {stream : Stream}

theorem computeFrame_leds (hn : 0 ≤ n) (hframe : 0 ≤ frame) :
    (computeFrame ref (.int n) frame brightness stream).leds =
      (ledsFrom ref.resolve frame (max 1 n) brightness (max 1 n).toNat 0 [] stream).1 := by
  simp only [computeFrame, frameSize_nonneg hn hframe]

theorem computeFrame_ok_iff (hn : 0 ≤ n) (hframe : 0 ≤ frame) (leds : List Color) :
    (computeFrame ref (.int n) frame brightness stream).leds = .ok leds ↔
      leds.length = (max 1 n).toNat ∧ ∀ (i : Nat) (hi : i < leds.length),
        lit ref.resolve frame (max 1 n) brightness (stream.skip (draws ref.resolve * i)) i =
          .ok leds[i] := by
  rw [computeFrame_leds hn hframe]
  constructor
  · intro h
    obtain ⟨new, rfl, hnew⟩ := ledsFrom_leds h
    have hlength := ledsFrom_length h
    rw [List.length_nil, Nat.zero_add] at hlength
    exact ⟨hlength, fun i hi => by simpa [lit, ledColor] using hnew i hi⟩
  · rintro ⟨hlength, h⟩
    rw [← hlength, ledsFrom_of_leds [] (by simpa using h)]
    rfl

theorem computeFrame_read (hn : 0 ≤ n) (hframe : 0 ≤ frame) {leds : List Color}
    (h : (computeFrame ref (.int n) frame brightness stream).leds = .ok leds) :
    (computeFrame ref (.int n) frame brightness stream).stream =
      stream.skip (draws ref.resolve * (max 1 n).toNat) := by
  rw [computeFrame_leds hn hframe] at h
  obtain ⟨tried, -, hstream, hall⟩ :=
    ledsFrom_drawn ref.resolve frame (max 1 n) brightness (max 1 n).toNat 0 [] stream
  simp only [computeFrame, frameSize_nonneg hn hframe]
  rw [hstream, hall leds h]

end

/-- **A frame is its LEDs.** Take any pattern, any brightness and any stream, and let `n` LEDs and
the frame be integers. If neither is below zero, the strip has `size` LEDs, at least one, and the
frame can be computed just if each of its LEDs can: its entries are the colours of the LEDs, each
computed by itself and scaled, fire and sparkle on the stream from the LED's own number on, and the
other patterns on the stream as it is. The numbers of fire and sparkle are read, one for each LED,
and so the next frame stands on the numbers behind them; no other number has a part in the colours,
and in those of the other patterns none has. If one is below zero, the frame is refused, for its
value, and the stream is left as it is. -/
theorem frame_is_its_leds (ref : PatternRef) (n frame : Int) (brightness : Value)
    (stream : Stream) :
    let picture := computeFrame ref (.int n) frame brightness stream
    let size := (max 1 n).toNat
    let random := ref.resolve = some .fire ∨ ref.resolve = some .sparkle
    (0 ≤ n → 0 ≤ frame →
      (∀ leds, picture.leds = .ok leds ↔
        leds.length = size ∧ ∀ (i : Nat) (hi : i < leds.length),
          lit ref.resolve frame size brightness (if random then stream.skip i else stream) i =
            .ok leds[i]) ∧
      (∀ leds, picture.leds = .ok leds →
        picture.stream = (if random then stream.skip size else stream) ∧
        (random → ∀ (later : Nat) (next : List Color),
          (computeFrame ref (.int n) later brightness picture.stream).leds = .ok next →
            next.length = size ∧ ∀ (i : Nat) (hi : i < next.length),
              lit ref.resolve later size brightness (stream.skip (size + i)) i = .ok next[i])) ∧
      ∀ other : Stream,
        (random → ∀ k < size, other.sample (other.drawn + k) = stream.sample (stream.drawn + k)) →
          (computeFrame ref (.int n) frame brightness other).leds = picture.leds) ∧
    (n < 0 ∨ frame < 0 → ∃ f, picture = ⟨.error f, stream, []⟩ ∧ f.label = "ValueError") := by
  intro picture size random
  have hsize : (size : Int) = max 1 n := by omega
  have hdraws : draws ref.resolve = if random then 1 else 0 := draws_eq ref.resolve
  have hskip (s : Stream) (k : Nat) :
      s.skip (draws ref.resolve * k) = if random then s.skip k else s := by
    by_cases hrandom : random
    · rw [hdraws, if_pos hrandom, if_pos hrandom, Nat.one_mul]
    · rw [hdraws, if_neg hrandom, if_neg hrandom, Nat.zero_mul]
      rfl
  refine ⟨fun hn hframe => ⟨fun leds => ?_, fun leds hleds => ?_, fun other hother => ?_⟩,
    fun hnegative => ?_⟩
  · simp only [← hskip, hsize]
    exact computeFrame_ok_iff hn hframe leds
  · have hstream : picture.stream = if random then stream.skip size else stream := by
      rw [← hskip]
      exact computeFrame_read hn hframe hleds
    refine ⟨hstream, fun hrandom later next hnext => ?_⟩
    rw [if_pos hrandom] at hstream
    obtain ⟨hlength, hentries⟩ :=
      (computeFrame_ok_iff hn (Int.natCast_nonneg later) next).mp hnext
    refine ⟨hlength, fun i hi => ?_⟩
    have hentry := hentries i hi
    rwa [hskip, if_pos hrandom, hstream, Stream.skip_skip, ← hsize] at hentry
  · rw [computeFrame_leds hn hframe, computeFrame_leds hn hframe]
    refine ledsFrom_congr 0 [] fun k hk => ?_
    by_cases hrandom : random
    · rw [hdraws, if_pos hrandom, Nat.one_mul] at hk
      exact hother hrandom k hk
    · rw [hdraws, if_neg hrandom, Nat.zero_mul] at hk
      exact absurd hk (Nat.not_lt_zero k)
  · obtain ⟨f, hf, hlabel⟩ := frameSize_negative hnegative
    exact ⟨f, by simp only [picture, computeFrame, hf], hlabel⟩

/-- Every third number is high enough for a sparkle. -/
def sparks : Stream := .cycle #[.finite (mkRat 31 32), .half, .finite 0]

/-- Two LEDs sparkle at half the brightness: the first frame takes two numbers of the stream, the
next one the third and then, as the row starts over, the first. Less than no LEDs are refused. -/
theorem frame_is_its_leds_sparkling :
    let dim : Color := ⟨0, 0, 10⟩
    let bright : Color := ⟨128, 128, 128⟩
    let frame (k : Nat) (s : Stream) := computeFrame (.id .sparkle) (.int 2) k (.int 50) s
    (frame 0 sparks).leds = .ok [bright, dim] ∧
    lit (some .sparkle) 0 2 (.int 50) (sparks.skip 1) 1 = .ok dim ∧
    (frame 0 sparks).stream = sparks.skip 2 ∧
    (frame 1 (sparks.skip 2)).leds = .ok [dim, bright] ∧
    lit (some .sparkle) 1 2 (.int 50) (sparks.skip 3) 1 = .ok bright ∧
    ∃ f, computeFrame (.id .sparkle) (.int (-1)) 0 (.int 50) sparks = ⟨.error f, sparks, []⟩ ∧
      f.label = "ValueError" := by
  intro dim bright frame
  have hok {r : Outcome (List Color)} {leds : List Color} (h : r.toOption = some leds) :
      r = .ok leds := by
    cases r with
    | error f => cases h
    | ok c => exact congrArg _ (Option.some.inj h)
  have hfirst : (frame 0 sparks).leds = .ok [bright, dim] := hok (by decide +kernel)
  have hnext : (frame 1 (sparks.skip 2)).leds = .ok [dim, bright] := hok (by decide +kernel)
  have hrandom : (PatternRef.id .sparkle).resolve = some .fire ∨
      (PatternRef.id .sparkle).resolve = some .sparkle := .inr rfl
  obtain ⟨hframe, hread, -⟩ :=
    (frame_is_its_leds (.id .sparkle) 2 0 (.int 50) sparks).1 (by decide) (by decide)
  obtain ⟨hstream, hlater⟩ := hread _ hfirst
  rw [if_pos hrandom] at hstream
  have hsecond := ((hframe _).mp hfirst).2 1 (by decide)
  rw [if_pos hrandom] at hsecond
  refine ⟨hfirst, hsecond, hstream, hnext, ?_, ?_⟩
  · exact (hlater hrandom 1 [dim, bright] (hstream ▸ hnext)).2 1 (by decide)
  · exact (frame_is_its_leds (.id .sparkle) (-1) 0 (.int 50) sparks).2 (.inl (by decide))

end LedStudio
