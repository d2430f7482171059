import Mathlib.Tactic.Common
import LedStudio.Text.Case

/-!
# What lower case leaves

No character of a text in lower case is a capital letter, and a text without capital letters stays
as it is. That no small letter is a capital one is read off the table of both, as two sets of code
points that have none in common.

* `caseShifts_sound` — what the rows of the table have in common.
* `notCapital_of_mem_lowerChar`, `lowerChar_eq_self` — a character.
* `notCapital_of_mem_lowerPoints`, `lowerPoints_eq_self` — a text, which may hold half characters.
-/

namespace LedStudio.Text

/-! ## Sets of code points -/

/-- A set of code points, each as the bit of its number. -/
def bits (points : List Nat) : Nat := points.foldr (fun p set => 1 <<< p ||| set) 0

theorem testBit_bits {points : List Nat} {n : Nat} :
    (bits points).testBit n = true ↔ n ∈ points := by
  induction points with
  | nil => simp [bits]
  | cons p rest ih =>
    rw [bits, List.foldr_cons, Nat.testBit_or, Bool.or_eq_true, ← bits, ih, Nat.one_shiftLeft,
      Nat.testBit_two_pow, List.mem_cons, decide_eq_true_eq, eq_comm]

theorem notMem_of_bits {a b : List Nat} (h : bits a &&& bits b = 0) {n : Nat} (ha : n ∈ a) :
    n ∉ b := by
  intro hb
  have hboth : (bits a &&& bits b).testBit n = true := by
    rw [Nat.testBit_and, testBit_bits.mpr ha, testBit_bits.mpr hb]
    rfl
  rw [h, Nat.zero_testBit] at hboth
  cases hboth

/-! ## The table -/

/-- The capital letters of a row of the table. -/
def CaseShift.capitals (s : CaseShift) : List Nat :=
  (List.range ((s.hi - s.lo) / s.stride + 1)).map fun k => s.lo + k * s.stride

/-- Their small letters. -/
def CaseShift.smalls (s : CaseShift) : List Nat :=
  s.capitals.map fun (p : Nat) => ((p : Int) + s.delta).toNat

/-- The code points of all capital letters, the I with a dot among them. -/
def capitals : List Nat := 0x130 :: caseShifts.flatMap CaseShift.capitals

/-- The code points of the small letters that capitals become, of the ASCII characters that are no
capitals, and of what the I with a dot and the sigma become. -/
def smalls : List Nat :=
  caseShifts.flatMap CaseShift.smalls ++ (List.range 0x80).filter (fun p => p < 0x41 || 0x5A < p) ++
    [0x307, 0x3C2, 0x3C3]

theorem small_not_capital {p : Nat} (h : p ∈ smalls) : p ∉ capitals :=
  notMem_of_bits (by decide +kernel) h

theorem sigma_capital : 'Σ'.toNat ∈ capitals := by
  decide +kernel

/-- The ends of a row of the table: neither its capital letters nor their small letters are halves
of characters. -/
structure CaseShift.Sound (s : CaseShift) : Prop where
  ordered : s.lo ≤ s.hi
  whole : s.hi < 0xD800 ∨ 0xDFFF < s.lo
  valid : (s.hi : Int) + s.delta < 0xD800 ∨
    0xDFFF < (s.lo : Int) + s.delta ∧ (s.hi : Int) + s.delta < 0x110000

theorem caseShifts_sound {s : CaseShift} (h : s ∈ caseShifts) : s.Sound := by
  have hrows : ∀ s ∈ caseShifts, s.lo ≤ s.hi ∧ (s.hi < 0xD800 ∨ 0xDFFF < s.lo) ∧
      ((s.hi : Int) + s.delta < 0xD800 ∨
        0xDFFF < (s.lo : Int) + s.delta ∧ (s.hi : Int) + s.delta < 0x110000) := by
    decide +kernel
  obtain ⟨hordered, hwhole, hvalid⟩ := hrows s h
  exact ⟨hordered, hwhole, hvalid⟩

/-- What a character below 128 is in lower case: no capital letter, and the character itself if it
is none. -/
theorem toLower_ascii : ∀ n < 0x80, (Char.ofNat n).toLower.toNat < 0x80 ∧
    ((Char.ofNat n).toLower.toNat < 0x41 ∨ 0x5A < (Char.ofNat n).toLower.toNat) ∧
    ((Char.ofNat n).toLower = Char.ofNat n ∨ 0x41 ≤ n ∧ n ≤ 0x5A) := by
  decide +kernel

theorem toNat_ofNat {n : Nat} (h : n.isValidChar) : (Char.ofNat n).toNat = n := by
  rw [Char.ofNat, dif_pos h]
  rfl

/-! ## Characters -/

variable {c d : Char}

/-- What is looked for in a row of the table are its capital letters. -/
theorem CaseShift.mem_capitals {s : CaseShift} (hproper : s.lo ≤ s.hi) {n : Nat} :
    (s.lo ≤ n && n ≤ s.hi && (n - s.lo) % s.stride == 0) = true ↔ n ∈ s.capitals := by
  simp only [Bool.and_eq_true, decide_eq_true_eq, beq_iff_eq, capitals, List.mem_map,
    List.mem_range]
  constructor
  · rintro ⟨⟨hlow, hhigh⟩, hstride⟩
    have hdiv := Nat.div_add_mod' (n - s.lo) s.stride
    refine ⟨(n - s.lo) / s.stride, ?_, by omega⟩
    have hle : (n - s.lo) / s.stride ≤ (s.hi - s.lo) / s.stride := Nat.div_le_div_right (by omega)
    omega
  · rintro ⟨k, hk, rfl⟩
    have hle : k * s.stride ≤ s.hi - s.lo :=
      Nat.le_trans (Nat.mul_le_mul_right _ (Nat.le_of_lt_succ hk)) (Nat.div_mul_le_self _ _)
    refine ⟨⟨by omega, by omega⟩, ?_⟩
    rw [Nat.add_sub_cancel_left, Nat.mul_mod_left]

theorem CaseShift.Sound.bounds {s : CaseShift} (h : s.Sound) {n : Nat} (hn : n ∈ s.capitals) :
    s.lo ≤ n ∧ n ≤ s.hi := by
  have hrow := (mem_capitals h.ordered).mpr hn
  simp only [Bool.and_eq_true, decide_eq_true_eq] at hrow
  exact hrow.1

/-- The small letter of a capital one is a character. -/
theorem CaseShift.Sound.small_valid {s : CaseShift} (h : s.Sound) {n : Nat} (hn : n ∈ s.capitals) :
    ((n : Int) + s.delta).toNat.isValidChar := by
  obtain ⟨hlow, hhigh⟩ := h.bounds hn
  rcases h.valid with hbelow | habove
  · exact .inl (by omega)
  · exact .inr (by omega)

theorem CaseShift.mem_capitals_of_find {s : CaseShift} {n : Nat}
    (h : caseShifts.find? (fun s => s.lo ≤ n && n ≤ s.hi && (n - s.lo) % s.stride == 0) = some s) :
    s ∈ caseShifts ∧ n ∈ s.capitals := by
  have hmem := List.mem_of_find?_eq_some h
  have hfound := List.find?_some h
  exact ⟨hmem, (mem_capitals (caseShifts_sound hmem).ordered).mp hfound⟩

/-- **A character in lower case is no capital letter.** -/
theorem notCapital_of_mem_lowerChar (h : d ∈ lowerChar c) : d.toNat ∉ capitals := by
  unfold lowerChar at h
  split at h
  · next hascii =>
    obtain rfl := List.mem_singleton.mp h
    obtain ⟨hlow, hsmall, -⟩ := toLower_ascii c.toNat hascii
    rw [Char.ofNat_toNat] at hlow hsmall
    apply small_not_capital
    simp only [smalls, List.mem_append, List.mem_filter, List.mem_range]
    exact .inl (.inr ⟨hlow, by simpa using hsmall⟩)
  · split at h
    · simp only [List.mem_cons, List.not_mem_nil, or_false] at h
      rcases h with rfl | rfl
      · exact small_not_capital (by simp [smalls])
      · exact small_not_capital (by simp [smalls])
    · next hdot =>
      split at h
      · next s hs =>
        obtain rfl := List.mem_singleton.mp h
        obtain ⟨hmem, hcapital⟩ := CaseShift.mem_capitals_of_find hs
        have hsmall : ((c.toNat : Int) + s.delta).toNat ∈ smalls := by
          simp only [smalls, List.mem_append, List.mem_flatMap]
          exact .inl (.inl ⟨s, hmem, List.mem_map.mpr ⟨c.toNat, hcapital, rfl⟩⟩)
        rw [toNat_ofNat ((caseShifts_sound hmem).small_valid hcapital)]
        exact small_not_capital hsmall
      · next hnone =>
        obtain rfl := List.mem_singleton.mp h
        rw [List.find?_eq_none] at hnone
        intro hcapital
        rcases List.mem_cons.mp hcapital with hd | hrow
        · refine hdot ?_
          rw [← Char.ofNat_toNat d, hd]
        · obtain ⟨s, hs, hcapital⟩ := List.mem_flatMap.mp hrow
          exact hnone s hs ((CaseShift.mem_capitals (caseShifts_sound hs).ordered).mpr hcapital)

/-- The capital letters below 128. -/
theorem ascii_capital {n : Nat} (hlow : 0x41 ≤ n) (hhigh : n ≤ 0x5A) : n ∈ capitals := by
  have hrow : n ∈ CaseShift.capitals ⟨0x41, 0x5A, 1, 32⟩ :=
    (CaseShift.mem_capitals (by decide)).mp (by simp [hlow, hhigh, Nat.mod_one])
  exact List.mem_cons_of_mem _ (List.mem_flatMap.mpr ⟨_, List.mem_cons_self, hrow⟩)

/-- A character that is no capital letter is what it is in lower case. -/
theorem lowerChar_eq_self (h : c.toNat ∉ capitals) : lowerChar c = [c] := by
  unfold lowerChar
  split
  · next hascii =>
    have hself := (toLower_ascii c.toNat hascii).2.2.resolve_right
      fun hrange => h (ascii_capital hrange.1 hrange.2)
    rw [Char.ofNat_toNat] at hself
    rw [hself]
  · split
    · next hdot =>
      rw [hdot] at h
      exact absurd List.mem_cons_self h
    · split
      · next s hs =>
        obtain ⟨hmem, hcapital⟩ := CaseShift.mem_capitals_of_find hs
        exact absurd (List.mem_cons_of_mem _ (List.mem_flatMap.mpr ⟨s, hmem, hcapital⟩)) h
      · rfl

/-! ## Texts -/

theorem notCapital_of_mem_lowerFrom {before s : List Char} (h : d ∈ lowerFrom before s) :
    d.toNat ∉ capitals := by
  induction s generalizing before with
  | nil => cases h
  | cons c rest ih =>
    rw [lowerFrom, List.mem_append] at h
    rcases h with hc | hrest
    · split at hc
      · split at hc
        · obtain rfl := List.mem_singleton.mp hc
          exact small_not_capital (by simp [smalls])
        · obtain rfl := List.mem_singleton.mp hc
          exact small_not_capital (by simp [smalls])
      · exact notCapital_of_mem_lowerChar hc
    · exact ih hrest

theorem lowerFrom_eq_self {s : List Char} (h : ∀ c ∈ s, c.toNat ∉ capitals) (before : List Char) :
    lowerFrom before s = s := by
  induction s generalizing before with
  | nil => rfl
  | cons c rest ih =>
    obtain ⟨hc, hrest⟩ := List.forall_mem_cons.mp h
    have hsigma : c ≠ 'Σ' := by
      rintro rfl
      exact hc sigma_capital
    rw [lowerFrom, if_neg hsigma, lowerChar_eq_self hc, ih hrest, List.singleton_append]

/-! ## Code points -/

/-- A character is no half of one. -/
theorem isHalf_toNat (c : Char) : isHalf c.toNat = false := by
  have hvalid : c.toNat < 0xD800 ∨ 0xDFFF < c.toNat := by
    rcases c.valid with hlow | ⟨hhigh, -⟩
    · exact .inl hlow
    · exact .inr hhigh
  simp only [isHalf, isHighHalf, isLowHalf, Bool.or_eq_false_iff, Bool.and_eq_false_iff,
    decide_eq_false_iff_not]
  omega

theorem half_not_capital {n : Nat} (h : isHalf n = true) : n ∉ capitals := by
  have hrange : 0xD800 ≤ n ∧ n ≤ 0xDFFF := by
    simp only [isHalf, isHighHalf, isLowHalf, Bool.or_eq_true, Bool.and_eq_true,
      decide_eq_true_eq] at h
    omega
  intro hn
  rcases List.mem_cons.mp hn with hdot | hrow
  · omega
  · obtain ⟨s, hs, hcapital⟩ := List.mem_flatMap.mp hrow
    have hsound := caseShifts_sound hs
    have hbounds := hsound.bounds hcapital
    rcases hsound.whole with hbelow | habove
    · omega
    · omega

theorem notCapital_of_mem_lowerRuns {run : List Char} {points : List Nat} {n : Nat}
    (h : n ∈ lowerRuns run points) : n ∉ capitals := by
  have hlower {run : List Char} (hn : n ∈ (lower run).map Char.toNat) : n ∉ capitals := by
    obtain ⟨c, hc, rfl⟩ := List.mem_map.mp hn
    exact notCapital_of_mem_lowerFrom hc
  induction points generalizing run with
  | nil => exact hlower h
  | cons p rest ih =>
    rw [lowerRuns] at h
    split at h
    · next hhalf =>
      rcases List.mem_append.mp h with hrun | htail
      · exact hlower hrun
      · rcases List.mem_cons.mp htail with rfl | hrest
        · exact half_not_capital hhalf
        · exact ih hrest
    · exact ih h

/-- **No code point in lower case is that of a capital letter.** -/
theorem notCapital_of_mem_lowerPoints {points : List Nat} {n : Nat} (h : n ∈ lowerPoints points) :
    n ∉ capitals := notCapital_of_mem_lowerRuns h

theorem lowerRuns_toNat (run s : List Char) :
    lowerRuns run (s.map Char.toNat) = (lower (run.reverse ++ s)).map Char.toNat := by
  induction s generalizing run with
  | nil => rw [List.map_nil, lowerRuns, List.append_nil]
  | cons c rest ih =>
    rw [List.map_cons, lowerRuns, isHalf_toNat, if_neg Bool.false_ne_true, Char.ofNat_toNat, ih,
      List.reverse_cons, List.append_assoc, List.singleton_append]

/-- The code points of a text in lower case are those of the text in lower case. -/
theorem lowerPoints_toNat (s : List Char) :
    lowerPoints (s.map Char.toNat) = (lower s).map Char.toNat := lowerRuns_toNat [] s

/-- **Code points of a text without capital letters are what they are in lower case.** -/
theorem lowerPoints_eq_self {s : List Char} (h : ∀ n ∈ s.map Char.toNat, n ∉ capitals) :
    lowerPoints (s.map Char.toNat) = s.map Char.toNat := by
  have hchars : ∀ c ∈ s, c.toNat ∉ capitals := fun c hc => h _ (List.mem_map_of_mem hc)
  rw [lowerPoints_toNat, lower, lowerFrom_eq_self hchars]

end LedStudio.Text
