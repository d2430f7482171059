import LedStudio.Strip

/-!
# Clamped settings are in range

* `clampLedCount_pos`, `clampBrightness_range`, `clampSpeed_range` — whatever a caller passes, a
  setting that is accepted lies in its range.
* `settingInt_eq_ok`, `clampSpeed_eq_ok` — which values are taken for a setting, and as what.
* `clamped_ok`, `withLedCount_ok`, `withBrightness_ok`, `withSpeed_ok` — what the settings of a strip
  are once they are accepted.
-/

namespace LedStudio

/-- An integer of one digit is not too long to be written. -/
theorem isWritableInt_of_digit {n : Int} (h : n.natAbs < 10) : isWritableInt n = true := by
  have hpow : ∀ k ≠ 0, 10 ≤ Nat.pow 10 k := fun k hk => Nat.le_self_pow hk 10
  have hsize : 10 ≤ unwritableSize := by
    unfold unwritableSize
    exact hpow _ (by decide)
  exact decide_eq_true (Nat.lt_of_lt_of_le h hsize)

/-! ## Integer parts -/

/-- The integer that is left of a number without its fraction. -/
def Value.HasIntegerPart (v : Value) (k : Int) : Prop :=
  match v with
  | .int n => n = k
  | .float x => ∃ q, x.rational? = some q ∧
    if 0 ≤ q then (k : Rat) ≤ q ∧ q < k + 1 else q ≤ k ∧ (k : Rat) - 1 < q
  | _ => False

theorem truncate_eq_iff {q : Rat} {k : Int} : truncate q = k ↔
    if 0 ≤ q then (k : Rat) ≤ q ∧ q < k + 1 else q ≤ k ∧ (k : Rat) - 1 < q := by
  have hnext : ((k + 1 : Int) : Rat) = (k : Rat) + 1 := Rat.intCast_add k 1
  have hlast : ((k - 1 : Int) : Rat) = (k : Rat) - 1 := Rat.intCast_sub k 1
  unfold truncate
  split
  · rw [← hnext, ← Rat.le_floor_iff, ← Rat.floor_lt_iff]
    omega
  · rw [← hlast, ← Rat.ceil_le_iff, ← Rat.lt_ceil_iff]
    omega

/-- A setting is taken from a number that has an integer part, and from no other value. -/
theorem settingInt_eq_ok {name : String} {v : Value} {k : Int} :
    settingInt name v = .ok k ↔ v.HasIntegerPart k := by
  cases v with
  | int n => simp [settingInt, Value.HasIntegerPart]
  | float x =>
    simp only [settingInt, Double.integerPart, Double.toIntBy, Value.HasIntegerPart]
    cases x with
    | finite q =>
      simp only [Except.ok.injEq, Double.rational?, Option.some.injEq, exists_eq_left',
        truncate_eq_iff]
    | negZero =>
      have hzero : truncate 0 = 0 := rfl
      simp only [Except.ok.injEq, Double.rational?, Option.some.injEq, exists_eq_left',
        ← truncate_eq_iff, hzero]
    | infinite negative => simp [Double.rational?]
    | nan => simp [Double.rational?]
  | _ => simp [settingInt, Value.HasIntegerPart]

theorem clampSpeed_eq_ok {v : Value} {n : Int} :
    clampSpeed v = .ok n ↔ ∃ k, v.HasIntegerPart k ∧ n = min 100 (max 0 k) := by
  constructor
  · intro h
    cases hk : settingInt "speed" v with
    | error f => simp [clampSpeed, hk, Except.map] at h
    | ok k =>
      simp only [clampSpeed, hk, Except.map, Except.ok.injEq] at h
      exact ⟨k, settingInt_eq_ok.mp hk, h.symm⟩
  · rintro ⟨k, hk, rfl⟩
    simp only [clampSpeed, settingInt_eq_ok.mpr hk, Except.map, IntRange.clampInt, speedRange]

/-! ## Ranges -/

/-- A number that was clamped lies in the range. -/
theorem IntRange.bounds_of_map {r : IntRange} {high : Int} (hr : r.high = some high)
    (hle : r.low ≤ high) {o : Outcome Int} {n : Int} (h : o.map r.clampInt = .ok n) :
    r.low ≤ n ∧ n ≤ high := by
  cases o with
  | error f => cases h
  | ok k =>
    simp only [Except.map, IntRange.clampInt, hr, Except.ok.injEq] at h
    omega

theorem clampSpeed_range {v : Value} {n : Int} (h : clampSpeed v = .ok n) : 0 ≤ n ∧ n ≤ 100 :=
  IntRange.bounds_of_map (r := speedRange) rfl (by decide) h

theorem clampBrightness_range {v : Value} {n : Int} (h : clampBrightness v = .ok n) :
    10 ≤ n ∧ n ≤ 100 :=
  IntRange.bounds_of_map (r := brightnessRange) rfl (by decide) h

theorem clampLedCount_pos {v : Value} {n : Int} (h : clampLedCount v = .ok n) : 1 ≤ n := by
  unfold clampLedCount at h
  cases hv : settingInt "led_count" v with
  | error f => simp [hv, bind, Except.bind] at h
  | ok k =>
    by_cases hk : k < 0
    · simp [hv, bind, Except.bind, hk, throw, throwThe, MonadExceptOf.throw] at h
    · simp only [hv, bind, Except.bind, hk, if_false, pure, Except.pure, Except.ok.injEq] at h
      subst h
      exact Int.le_max_left 1 k

theorem clampLedCount_int {n : Int} (h : 1 ≤ n) : clampLedCount (.int n) = .ok n := by
  have hneg : ¬n < 0 := by omega
  have hmax : max 1 n = n := by omega
  simp only [clampLedCount, settingInt, bind, Except.bind, hneg, if_false, pure, Except.pure,
    IntRange.clampInt, ledCountRange, hmax]

theorem clampSpeed_int {n : Int} (hlow : 0 ≤ n) (hhigh : n ≤ 100) :
    clampSpeed (.int n) = .ok n := by
  have hclamp : min 100 (max 0 n) = n := by omega
  simp only [clampSpeed, settingInt, Except.map, IntRange.clampInt, speedRange, hclamp]

/-- What was clamped stays as it is when it is clamped again. -/
theorem clampSpeed_clamped {v : Value} {n : Int} (h : clampSpeed v = .ok n) :
    clampSpeed (.int n) = .ok n :=
  clampSpeed_int (clampSpeed_range h).1 (clampSpeed_range h).2

namespace StripConfig

theorem checked_ok {count brightness speed : Value} {c : StripConfig}
    (h : checked count brightness speed = .ok c) : c = ⟨count, brightness, speed⟩ := by
  unfold checked at h
  split at h
  · cases h
  · split at h
    · cases h
    · exact (Except.ok.inj h).symm

theorem checked_int {n : Int} (hn : 1 ≤ n) (brightness speed : Value) :
    checked (.int n) brightness speed = .ok ⟨.int n, brightness, speed⟩ := by
  have hpos : ¬n ≤ 0 := by omega
  simp only [checked, Value.number?, isAtMostZero, hpos, decide_false, Bool.false_eq_true, if_false]

theorem withLedCount_int (c : StripConfig) {n : Int} (hn : 0 ≤ n) :
    c.withLedCount (.int n) = .ok { c with ledCount := .int (max 1 n) } := by
  have hneg : ¬n < 0 := by omega
  have hclamp : clampLedCount (.int n) = .ok (max 1 n) := by
    simp only [clampLedCount, settingInt, bind, Except.bind, hneg, if_false, pure, Except.pure,
      IntRange.clampInt, ledCountRange]
  simp only [withLedCount, hclamp, bind, Except.bind, checked_int (Int.le_max_left 1 n)]

/-- No number below zero is taken for a number of LEDs. -/
theorem withLedCount_negative (c : StripConfig) {n : Int} (hn : n < 0) :
    ∃ f, c.withLedCount (.int n) = .error f := by
  refine ⟨if isWritableInt n then .negativeLedCount n else .unwritableInteger, ?_⟩
  simp only [withLedCount, clampLedCount, settingInt, bind, Except.bind, hn, if_true, throw,
    throwThe, MonadExceptOf.throw]

theorem withLedCount_ok {c d : StripConfig} {v : Value} (h : c.withLedCount v = .ok d) :
    ∃ n, clampLedCount v = .ok n ∧ d = { c with ledCount := .int n } := by
  cases hn : clampLedCount v with
  | error f => simp [withLedCount, hn, bind, Except.bind] at h
  | ok n =>
    simp only [withLedCount, hn, bind, Except.bind] at h
    exact ⟨n, rfl, checked_ok h⟩

theorem withBrightness_ok {c d : StripConfig} {v : Value} (h : c.withBrightness v = .ok d) :
    ∃ b, clampBrightness v = .ok b ∧ d = { c with brightness := .int b } := by
  cases hb : clampBrightness v with
  | error f => simp [withBrightness, hb, bind, Except.bind] at h
  | ok b =>
    simp only [withBrightness, hb, bind, Except.bind] at h
    exact ⟨b, rfl, checked_ok h⟩

theorem withSpeed_ok {c d : StripConfig} {v : Value} (h : c.withSpeed v = .ok d) :
    ∃ k, clampSpeed v = .ok k ∧ d = { c with speed := .int k } := by
  cases hk : clampSpeed v with
  | error f => simp [withSpeed, hk, bind, Except.bind] at h
  | ok k =>
    simp only [withSpeed, hk, bind, Except.bind] at h
    exact ⟨k, rfl, checked_ok h⟩

theorem clamped_ok {count brightness speed : Value} {c : StripConfig}
    (h : clamped count brightness speed = .ok c) :
    ∃ n b k, clampLedCount count = .ok n ∧ clampBrightness brightness = .ok b ∧
      clampSpeed speed = .ok k ∧ c = ⟨.int n, .int b, .int k⟩ := by
  cases hn : clampLedCount count with
  | error f => simp [clamped, hn, bind, Except.bind] at h
  | ok n =>
    cases hb : clampBrightness brightness with
    | error f => simp [clamped, hn, hb, bind, Except.bind] at h
    | ok b =>
      cases hk : clampSpeed speed with
      | error f => simp [clamped, hn, hb, hk, bind, Except.bind] at h
      | ok k =>
        simp only [clamped, hn, hb, hk, bind, Except.bind] at h
        exact ⟨n, b, k, rfl, rfl, rfl, checked_ok h⟩

end StripConfig
end LedStudio
