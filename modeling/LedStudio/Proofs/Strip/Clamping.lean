import LedStudio.Proofs.Strip

/-!
# Which values are clamped

A setting takes any number that has an integer part and goes to the nearest integer in the range of
the setting. All other values are refused as such, with one exception: an infinity is a number, and
beyond every range, but it has no integer part and is refused with a fault of its own.

* `clamp_eq_ok`, `clamp_infinite_iff`, `valueFault_iff` — what becomes of a value.
* `change_cases` — one change of settings that are in their ranges.
* `clamping_total` — values, strips made of them, and changes one after the other.
-/

namespace LedStudio

/-! ## Settings -/

/-- The numbers of a strip that can be set. -/
inductive Setting where
  | ledCount | brightness | speed
  deriving DecidableEq, Repr

namespace Setting

def range : Setting → IntRange
  | ledCount => ledCountRange
  | brightness => brightnessRange
  | speed => speedRange

def clamp : Setting → Value → Outcome Int
  | ledCount => clampLedCount
  | brightness => clampBrightness
  | speed => clampSpeed

/-- The integers that the setting takes before they are clamped. -/
def Admits (s : Setting) (k : Int) : Prop := s = ledCount → 0 ≤ k

instance (s : Setting) (k : Int) : Decidable (s.Admits k) :=
  inferInstanceAs (Decidable (s = ledCount → 0 ≤ k))

/-- The name of the setting in faults. -/
def name : Setting → String
  | ledCount => "led_count"
  | brightness => "brightness"
  | speed => "speed"

def get : Setting → StripConfig → Value
  | ledCount, c => c.ledCount
  | brightness, c => c.brightness
  | speed, c => c.speed

/-- The strip with another value for the setting. -/
def put : Setting → StripConfig → Value → StripConfig
  | ledCount, c, v => { c with ledCount := v }
  | brightness, c, v => { c with brightness := v }
  | speed, c, v => { c with speed := v }

/-- The strip once the setting is changed to a value. -/
def change : Setting → StripConfig → Value → Outcome StripConfig
  | ledCount => StripConfig.withLedCount
  | brightness => StripConfig.withBrightness
  | speed => StripConfig.withSpeed

@[simp] theorem get_put_self (s : Setting) (c : StripConfig) (v : Value) :
    s.get (s.put c v) = v := by
  cases s <;> rfl

theorem get_put_of_ne {s t : Setting} (h : t ≠ s) (c : StripConfig) (v : Value) :
    t.get (s.put c v) = t.get c := by
  cases s <;> cases t <;> first | rfl | exact absurd rfl h

end Setting

/-! ## The nearest integer in a range -/

namespace IntRange

variable {r : IntRange} {k n : Int}

/-- The integer is in the range. -/
def Holds (r : IntRange) (n : Int) : Prop := r.low ≤ n ∧ ∀ high ∈ r.high, n ≤ high

/-- The integer of the range that is nearest to another: itself, or the end that it is beyond. -/
def IsNearest (r : IntRange) (k n : Int) : Prop :=
  r.Holds k ∧ n = k ∨ k < r.low ∧ n = r.low ∨ ∃ high ∈ r.high, high < k ∧ n = high

/-- The ends are not crossed. -/
def Proper (r : IntRange) : Prop := ∀ high ∈ r.high, r.low ≤ high

theorem isNearest_iff (h : r.Proper) : r.IsNearest k n ↔ n = r.clampInt k := by
  unfold IsNearest Holds clampInt
  cases hr : r.high with
  | none =>
    simp only [Option.not_mem_none, false_implies, implies_true, and_true, false_and, exists_false,
      or_false]
    omega
  | some high =>
    have hlow := h high hr
    simp only [Option.mem_some_iff, forall_eq', exists_eq_left']
    omega

theorem IsNearest.holds (h : r.Proper) (hn : r.IsNearest k n) : r.Holds n := by
  rcases hn with ⟨hk, rfl⟩ | ⟨-, rfl⟩ | ⟨high, hr, -, rfl⟩
  · exact hk
  · exact ⟨Int.le_refl _, h⟩
  · refine ⟨h n hr, fun other hother => ?_⟩
    have hsame : n = other := Option.mem_unique hr hother
    omega

end IntRange

theorem Setting.range_proper (s : Setting) : s.range.Proper := by
  cases s <;> simp [range, IntRange.Proper, ledCountRange, brightnessRange, speedRange]

/-! ## What becomes of a value -/

namespace Value

/-- Infinity, or its negative. -/
def IsInfinite (v : Value) : Prop := ∃ negative, v = .float (.infinite negative)

/-- A number that is none. -/
def IsNan (v : Value) : Prop := v = .float .nan ∨ v = .loneNan

end Value

/-- A value without an integer part is an infinity, "not a number", or no number at all. -/
theorem settingInt_eq_error {name : String} {v : Value} {f : Fault}
    (h : settingInt name v = .error f) : v.IsInfinite ∧ f = .infinityHasNoInteger ∨
      (v.IsNan ∨ v.kind ≠ .int ∧ v.kind ≠ .float) ∧ f.label = "ValueError" := by
  cases v with
  | int n => cases h
  | float x =>
    cases x with
    | finite q => cases h
    | negZero => cases h
    | infinite negative => exact .inl ⟨⟨negative, rfl⟩, (Except.error.inj h).symm⟩
    | nan =>
      obtain rfl := Except.error.inj h
      exact .inr ⟨.inl (.inl rfl), rfl⟩
  | loneNan =>
    obtain rfl := Except.error.inj h
    exact .inr ⟨.inl (.inr rfl), rfl⟩
  | again isMap =>
    obtain rfl := Except.error.inj h
    cases isMap <;> exact .inr ⟨.inr ⟨nofun, nofun⟩, rfl⟩
  | _ =>
    obtain rfl := Except.error.inj h
    exact .inr ⟨.inr ⟨nofun, nofun⟩, rfl⟩

theorem Value.HasIntegerPart.not_odd {v : Value} {k : Int} (h : v.HasIntegerPart k) :
    ¬(v.IsNan ∨ v.kind ≠ .int ∧ v.kind ≠ .float) := by
  rintro ((rfl | rfl) | ⟨hint, hfloat⟩)
  · simp [HasIntegerPart, Double.rational?] at h
  · exact h
  · cases v with
    | int n => exact hint rfl
    | float x => exact hfloat rfl
    | _ => exact h

theorem Value.HasIntegerPart.unique {v : Value} {j k : Int} (hj : v.HasIntegerPart j)
    (hk : v.HasIntegerPart k) : j = k := by
  have hj' : settingInt "" v = .ok j := settingInt_eq_ok.mpr hj
  have hk' : settingInt "" v = .ok k := settingInt_eq_ok.mpr hk
  exact Except.ok.inj (hj'.symm.trans hk')

/-- What a number of LEDs below zero is refused with. -/
def negativeCount (k : Int) : Fault :=
  if isWritableInt k then .negativeLedCount k else .unwritableInteger

theorem negativeCount_label (k : Int) : (negativeCount k).label = "ValueError" := by
  unfold negativeCount
  split <;> rfl

namespace Setting

variable {s : Setting} {v : Value} {n : Int} {f : Fault}

/-- The settings are clamped in one way. -/
theorem clamp_eq (s : Setting) (v : Value) : s.clamp v = (settingInt s.name v).bind fun k =>
    if s.Admits k then .ok (s.range.clampInt k) else .error (negativeCount k) := by
  cases s with
  | ledCount =>
    have hadmits (k : Int) : ledCount.Admits k ↔ ¬k < 0 := by
      simp [Admits]
    simp only [clamp, clampLedCount, name, range, hadmits, ite_not]
    rfl
  | brightness =>
    simp only [clamp, clampBrightness, name, range, Admits, reduceCtorEq, false_implies, if_true]
    cases settingInt "brightness" v <;> rfl
  | speed =>
    simp only [clamp, clampSpeed, name, range, Admits, reduceCtorEq, false_implies, if_true]
    cases settingInt "speed" v <;> rfl

/-- The values that are no number, "not a number", or an integer that the setting does not admit. -/
def Refuses (s : Setting) (v : Value) : Prop :=
  (v.IsNan ∨ v.kind ≠ .int ∧ v.kind ≠ .float) ∨ ∃ k, v.HasIntegerPart k ∧ ¬s.Admits k

/-- A value is clamped, or refused for what it is, or an infinity. -/
theorem clamp_cases (s : Setting) (v : Value) :
    (∃ k, v.HasIntegerPart k ∧ s.Admits k ∧ s.clamp v = .ok (s.range.clampInt k)) ∨
    (s.Refuses v ∧ ∃ f, s.clamp v = .error f ∧ f.label = "ValueError") ∨
    v.IsInfinite ∧ s.clamp v = .error .infinityHasNoInteger := by
  rw [clamp_eq]
  cases hv : settingInt s.name v with
  | error f =>
    rcases settingInt_eq_error hv with ⟨hinfinite, rfl⟩ | ⟨hodd, hlabel⟩
    · exact .inr (.inr ⟨hinfinite, rfl⟩)
    · exact .inr (.inl ⟨.inl hodd, f, rfl, hlabel⟩)
  | ok k =>
    have hk := settingInt_eq_ok.mp hv
    rw [Except.bind]
    by_cases hadmits : s.Admits k
    · exact .inl ⟨k, hk, hadmits, if_pos hadmits⟩
    · exact .inr (.inl ⟨.inr ⟨k, hk, hadmits⟩, _, if_neg hadmits, negativeCount_label k⟩)

/-- **A value is clamped to the nearest integer in the range.** -/
theorem clamp_eq_ok : s.clamp v = .ok n ↔
    ∃ k, v.HasIntegerPart k ∧ s.Admits k ∧ s.range.IsNearest k n := by
  simp only [IntRange.isNearest_iff s.range_proper]
  constructor
  · intro h
    rcases clamp_cases s v with ⟨k, hk, hadmits, hok⟩ | ⟨-, f, herror, -⟩ | ⟨-, herror⟩
    · exact ⟨k, hk, hadmits, Except.ok.inj (h.symm.trans hok)⟩
    · cases h.symm.trans herror
    · cases h.symm.trans herror
  · rintro ⟨k, hk, hadmits, rfl⟩
    rw [clamp_eq, settingInt_eq_ok.mpr hk, Except.bind, if_pos hadmits]

/-- **What is refused with a value fault.** -/
theorem valueFault_iff : (∃ f, s.clamp v = .error f ∧ f.label = "ValueError") ↔ s.Refuses v := by
  constructor
  · rintro ⟨f, hf, hlabel⟩
    rcases clamp_cases s v with ⟨k, -, -, hok⟩ | ⟨hrefuses, -⟩ | ⟨-, herror⟩
    · cases hf.symm.trans hok
    · exact hrefuses
    · obtain rfl := Except.error.inj (hf.symm.trans herror)
      exact absurd hlabel (by decide)
  · intro h
    rcases clamp_cases s v with ⟨k, hk, hadmits, -⟩ | ⟨-, hfault⟩ | ⟨⟨negative, rfl⟩, -⟩
    · -- A value has one integer part.
      rcases h with hodd | ⟨j, hj, hnot⟩
      · exact absurd hodd hk.not_odd
      · rw [hj.unique hk] at hnot
        exact absurd hadmits hnot
    · exact hfault
    · rcases h with hodd | ⟨j, hj, -⟩
      · simp [Value.IsNan, Value.kind] at hodd
      · simp [Value.HasIntegerPart, Double.rational?] at hj

/-- **An infinity is not clamped**, and no other value is refused in its way. -/
theorem clamp_infinite_iff : s.clamp v = .error .infinityHasNoInteger ↔ v.IsInfinite := by
  constructor
  · intro h
    rcases clamp_cases s v with ⟨k, -, -, hok⟩ | ⟨-, f, herror, hlabel⟩ | ⟨hinfinite, -⟩
    · cases h.symm.trans hok
    · rw [← Except.error.inj (h.symm.trans herror)] at hlabel
      exact absurd hlabel (by decide)
    · exact hinfinite
  · rintro ⟨negative, rfl⟩
    rw [clamp_eq]
    rfl

/-- A value is clamped into the range, refused with a value fault, or an infinity. -/
theorem clamp_outcome (s : Setting) (v : Value) : (∃ n, s.clamp v = .ok n ∧ s.range.Holds n) ∨
    ∃ f, s.clamp v = .error f ∧
      (f.label = "ValueError" ∨ v.IsInfinite ∧ f = .infinityHasNoInteger) := by
  rcases clamp_cases s v with ⟨k, -, -, hok⟩ | ⟨-, f, herror, hlabel⟩ | ⟨hinfinite, herror⟩
  · have hnearest := (IntRange.isNearest_iff s.range_proper (k := k)).mpr rfl
    exact .inl ⟨_, hok, hnearest.holds s.range_proper⟩
  · exact .inr ⟨f, herror, .inl hlabel⟩
  · exact .inr ⟨_, herror, .inr ⟨hinfinite, rfl⟩⟩

end Setting

/-! ## Strips -/

namespace StripConfig

variable {c d : StripConfig} {s : Setting} {n : Int}

/-- All settings are integers in their ranges. -/
def InRange (c : StripConfig) : Prop := ∀ s : Setting, ∃ n, s.get c = .int n ∧ s.range.Holds n

theorem InRange.put (h : c.InRange) (hn : s.range.Holds n) : (s.put c (.int n)).InRange := by
  intro t
  by_cases ht : t = s
  · subst ht
    exact ⟨n, Setting.get_put_self t c _, hn⟩
  · rw [Setting.get_put_of_ne ht]
    exact h t

/-- Changing a setting is clamping the value and putting it into the strip. -/
theorem InRange.change (h : c.InRange) (s : Setting) (v : Value) :
    s.change c v = (s.clamp v).map fun n => s.put c (.int n) := by
  obtain ⟨count, hcount, hpos, -⟩ := h .ledCount
  have hchecked (brightness speed : Value) :
      checked c.ledCount brightness speed = .ok ⟨c.ledCount, brightness, speed⟩ := by
    rw [show c.ledCount = .int count from hcount]
    exact checked_int hpos brightness speed
  cases s with
  | ledCount =>
    cases hn : clampLedCount v with
    | error f =>
      simp only [Setting.change, Setting.clamp, withLedCount, hn, bind, Except.bind, Except.map]
    | ok n =>
      simp only [Setting.change, Setting.clamp, withLedCount, hn, bind, Except.bind, Except.map,
        checked_int (clampLedCount_pos hn), Setting.put]
  | brightness =>
    cases hn : clampBrightness v <;>
      simp only [Setting.change, Setting.clamp, withBrightness, hn, bind, Except.bind, Except.map,
        hchecked, Setting.put]
  | speed =>
    cases hn : clampSpeed v <;>
      simp only [Setting.change, Setting.clamp, withSpeed, hn, bind, Except.bind, Except.map,
        hchecked, Setting.put]

/-- **One change** leads from settings in their ranges to such settings, or is refused. -/
theorem InRange.change_cases (h : c.InRange) (s : Setting) (v : Value) :
    (∃ d, s.change c v = .ok d ∧ d.InRange) ∨
    ∃ f, s.change c v = .error f ∧
      (f.label = "ValueError" ∨ v.IsInfinite ∧ f = .infinityHasNoInteger) := by
  rw [h.change]
  rcases s.clamp_outcome v with ⟨n, hok, hn⟩ | ⟨f, herror, hf⟩
  · rw [hok]
    exact .inl ⟨_, rfl, h.put hn⟩
  · rw [herror]
    exact .inr ⟨f, rfl, hf⟩

/-- The strip that is left after a change, which is the one before if the change is refused. -/
def tried (c : StripConfig) (change : Setting × Value) : StripConfig :=
  match change.1.change c change.2 with
  | .ok d => d
  | .error _ => c

theorem InRange.tried (h : c.InRange) (change : Setting × Value) : (c.tried change).InRange := by
  rcases h.change_cases change.1 change.2 with ⟨d, hok, hd⟩ | ⟨f, herror, -⟩
  · rwa [StripConfig.tried, hok]
  · rwa [StripConfig.tried, herror]

/-- **Any number of changes** leave the settings in their ranges. -/
theorem InRange.run (h : c.InRange) (changes : List (Setting × Value)) :
    (changes.foldl StripConfig.tried c).InRange := by
  induction changes generalizing c with
  | nil => exact h
  | cons change rest ih => exact ih (h.tried change)

/-- A strip is made of three values if each of them is clamped. -/
theorem clamped_eq_ok {values : Setting → Value} :
    clamped (values .ledCount) (values .brightness) (values .speed) = .ok c ↔
    ∀ s : Setting, ∃ n, s.clamp (values s) = .ok n ∧ s.get c = .int n := by
  constructor
  · intro h s
    obtain ⟨n, b, k, hn, hb, hk, rfl⟩ := clamped_ok h
    cases s with
    | ledCount => exact ⟨n, hn, rfl⟩
    | brightness => exact ⟨b, hb, rfl⟩
    | speed => exact ⟨k, hk, rfl⟩
  · intro h
    obtain ⟨n, hn, hcount⟩ := h .ledCount
    obtain ⟨b, hb, hbrightness⟩ := h .brightness
    obtain ⟨k, hk, hspeed⟩ := h .speed
    simp only [Setting.clamp] at hn hb hk
    simp only [clamped, hn, hb, hk, bind, Except.bind, checked_int (clampLedCount_pos hn)]
    simp only [Setting.get] at hcount hbrightness hspeed
    rw [← hcount, ← hbrightness, ← hspeed]

theorem clamped_inRange {values : Setting → Value}
    (h : clamped (values .ledCount) (values .brightness) (values .speed) = .ok c) : c.InRange := by
  intro s
  obtain ⟨n, hn, hget⟩ := clamped_eq_ok.mp h s
  obtain ⟨k, -, -, hnearest⟩ := Setting.clamp_eq_ok.mp hn
  exact ⟨n, hget, hnearest.holds s.range_proper⟩

/-- The fault of a strip that is not made is that of one of its values. -/
theorem clamped_eq_error {values : Setting → Value} {f : Fault}
    (h : clamped (values .ledCount) (values .brightness) (values .speed) = .error f) :
    ∃ s : Setting, s.clamp (values s) = .error f := by
  cases hn : clampLedCount (values .ledCount) with
  | error g =>
    simp only [clamped, hn, bind, Except.bind] at h
    exact ⟨.ledCount, hn.trans (congrArg _ (Except.error.inj h))⟩
  | ok n =>
    cases hb : clampBrightness (values .brightness) with
    | error g =>
      simp only [clamped, hn, hb, bind, Except.bind] at h
      exact ⟨.brightness, hb.trans (congrArg _ (Except.error.inj h))⟩
    | ok b =>
      cases hk : clampSpeed (values .speed) with
      | error g =>
        simp only [clamped, hn, hb, hk, bind, Except.bind] at h
        exact ⟨.speed, hk.trans (congrArg _ (Except.error.inj h))⟩
      | ok k =>
        simp only [clamped, hn, hb, hk, bind, Except.bind, checked_int (clampLedCount_pos hn)] at h
        cases h

/-- A strip is made with all settings in their ranges, or refused for one of its values. -/
theorem clamped_cases (values : Setting → Value) :
    (∃ c, clamped (values .ledCount) (values .brightness) (values .speed) = .ok c ∧ c.InRange) ∨
    ∃ f, clamped (values .ledCount) (values .brightness) (values .speed) = .error f ∧
      (f.label = "ValueError" ∨ ∃ s, (values s).IsInfinite ∧ f = .infinityHasNoInteger) := by
  cases h : clamped (values .ledCount) (values .brightness) (values .speed) with
  | ok c => exact .inl ⟨c, rfl, clamped_inRange h⟩
  | error f =>
    refine .inr ⟨f, rfl, ?_⟩
    obtain ⟨s, hs⟩ := clamped_eq_error h
    rcases s.clamp_outcome (values s) with ⟨n, hok, -⟩ | ⟨g, herror, hg⟩
    · cases hs.symm.trans hok
    · obtain rfl := Except.error.inj (hs.symm.trans herror)
      rcases hg with hlabel | hinfinite
      · exact .inl hlabel
      · exact .inr ⟨s, hinfinite⟩

end StripConfig

/-- **Clamping**: a setting takes the nearest integer in its range from a number with an integer
part that it admits, and refuses every other value with a value fault, except for an infinity, which
it refuses with a fault of its own. So the strips that are made and those that any changes lead to
are in their ranges, and only a value fault or an infinity stops a change. -/
theorem clamping_total (s : Setting) (v : Value) (values : Setting → Value) {c : StripConfig}
    (hc : c.InRange) (changes : List (Setting × Value)) :
    let made := StripConfig.clamped (values .ledCount) (values .brightness) (values .speed)
    let d := changes.foldl StripConfig.tried c
    ((∀ n, s.clamp v = .ok n ↔ ∃ k, v.HasIntegerPart k ∧ s.Admits k ∧ s.range.IsNearest k n) ∧
      ((∃ f, s.clamp v = .error f ∧ f.label = "ValueError") ↔ s.Refuses v) ∧
      (s.clamp v = .error .infinityHasNoInteger ↔ v.IsInfinite) ∧
      ((∃ n, s.clamp v = .ok n ∧ s.range.Holds n) ∨ s.Refuses v ∨ v.IsInfinite)) ∧
    ((∀ e, made = .ok e ↔ ∀ t : Setting, ∃ n, t.clamp (values t) = .ok n ∧ t.get e = .int n) ∧
      ((∃ e, made = .ok e ∧ e.InRange) ∨ ∃ f, made = .error f ∧
        (f.label = "ValueError" ∨ ∃ t, (values t).IsInfinite ∧ f = .infinityHasNoInteger))) ∧
    d.InRange ∧ s.change d v = (s.clamp v).map (fun n => s.put d (.int n)) ∧
    ((∃ e, s.change d v = .ok e ∧ e.InRange) ∨
      ∃ f, s.change d v = .error f ∧ d.tried (s, v) = d ∧
        (f.label = "ValueError" ∨ v.IsInfinite ∧ f = .infinityHasNoInteger)) := by
  intro made d
  have hd : d.InRange := hc.run changes
  refine ⟨⟨fun n => s.clamp_eq_ok, s.valueFault_iff, s.clamp_infinite_iff, ?_⟩,
    ⟨fun e => StripConfig.clamped_eq_ok, StripConfig.clamped_cases values⟩, hd, hd.change s v, ?_⟩
  · rcases s.clamp_outcome v with hok | ⟨f, herror, hlabel | ⟨hinfinite, -⟩⟩
    · exact .inl hok
    · exact .inr (.inl (s.valueFault_iff.mp ⟨f, herror, hlabel⟩))
    · exact .inr (.inr hinfinite)
  · rcases hd.change_cases s v with hok | ⟨f, herror, hf⟩
    · exact .inl hok
    · refine .inr ⟨f, herror, ?_, hf⟩
      rw [StripConfig.tried, herror]

theorem StripConfig.default_inRange : InRange {} := by
  intro s
  cases s <;> refine ⟨_, rfl, ?_⟩ <;> simp [IntRange.Holds, Setting.range, ledCountRange,
    brightnessRange, speedRange]

/-- The default strip after a text as a brightness, a speed beyond the range and an infinite one. -/
theorem clamping_total_changes :
    let d := [(Setting.brightness, Value.text "x"), (.speed, .int 500),
      (.speed, .float (.infinite true))].foldl StripConfig.tried {}
    StripConfig.InRange {} ∧ d.InRange ∧ d.speed = .int 100 ∧
      Setting.brightness.change d (.int (-7)) = .ok { d with brightness := .int 10 } := by
  obtain ⟨-, -, hrange, hchange, -⟩ := clamping_total .brightness (.int (-7))
    (fun _ => .text "x") StripConfig.default_inRange [(Setting.brightness, Value.text "x"),
      (.speed, .int 500), (.speed, .float (.infinite true))]
  exact ⟨StripConfig.default_inRange, hrange, rfl, hchange.trans rfl⟩

/-- Infinity is beyond the range of a brightness and is not clamped to its end. -/
theorem clamp_infinity : Setting.brightness.clamp (.float (.infinite false)) =
      .error .infinityHasNoInteger ∧
    Fault.infinityHasNoInteger.label = "OverflowError" ∧
    ¬Setting.brightness.Refuses (.float (.infinite false)) := by
  refine ⟨rfl, rfl, ?_⟩
  rintro (hodd | ⟨k, hk, -⟩)
  · simp [Value.IsNan, Value.kind] at hodd
  · simp [Value.HasIntegerPart, Double.rational?] at hk

end LedStudio
