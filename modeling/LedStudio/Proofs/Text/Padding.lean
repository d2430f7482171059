import LedStudio.Proofs.Text.Case
import LedStudio.Text.Blank
import Mathlib.Data.List.TakeWhile

/-!
# Padding

The blanks around a text are taken off before it is looked at in lower case. Taking them off undoes
putting them on, and lower case neither makes a blank nor loses one: a text has a blank at an end
just if it has one there in lower case.

* `trimBy_padded`, `exists_padded` — what is left of a padded row, and how a row is padded.
* `unpadded_lowerPoints` — no blank at either end, in lower case or not.
* `spells_iff` — which padded texts are the same up to letter case.
-/

namespace LedStudio.Text

/-! ## Taking padding off -/

section

variable {α : Type} {drop : α → Bool} {front core back s : List α}

/-- No member of a class stands at either end of a row. -/
def EndsWithout (drop : α → Bool) (s : List α) : Prop :=
  (∀ a ∈ s.head?, drop a = false) ∧ ∀ a ∈ s.getLast?, drop a = false

theorem dropWhile_padding (hfront : ∀ a ∈ front, drop a = true)
    (hs : ∀ a ∈ s.head?, drop a = false) : (front ++ s).dropWhile drop = s := by
  rw [List.dropWhile_append_of_pos hfront]
  cases s with
  | nil => rfl
  | cons a rest => simp [hs a rfl]

theorem trimBy_padded (hfront : ∀ a ∈ front, drop a = true) (hback : ∀ a ∈ back, drop a = true)
    (hcore : EndsWithout drop core) : trimBy drop (front ++ core ++ back) = core := by
  have hback' : ∀ a ∈ back.reverse, drop a = true := by simpa using hback
  cases core with
  | nil =>
    have hall : ∀ a ∈ front ++ back, drop a = true := by
      intro a ha
      rcases List.mem_append.mp ha with ha | ha
      · exact hfront a ha
      · exact hback a ha
    have hnone : (front ++ back).dropWhile drop = [] := List.dropWhile_eq_nil_iff.mpr hall
    simp [trimBy, hnone]
  | cons a rest =>
    have hhead : ∀ b ∈ (a :: rest ++ back).head?, drop b = false := by
      intro b hb
      exact hcore.1 b (by simpa using hb)
    have hlast : ∀ b ∈ (a :: rest).reverse.head?, drop b = false := by
      intro b hb
      rw [List.head?_reverse] at hb
      exact hcore.2 b hb
    rw [trimBy, List.append_assoc, dropWhile_padding hfront hhead, List.reverse_append,
      dropWhile_padding hback' hlast, List.reverse_reverse]

/-- Every row is what is left of it with padding around. -/
theorem exists_padded (drop : α → Bool) (s : List α) : ∃ front back,
    s = front ++ trimBy drop s ++ back ∧ (∀ a ∈ front, drop a = true) ∧
      (∀ a ∈ back, drop a = true) ∧ EndsWithout drop (trimBy drop s) := by
  obtain ⟨r, hr⟩ : ∃ r, s.dropWhile drop = r := ⟨_, rfl⟩
  have hsplit : r = trimBy drop s ++ (r.reverse.takeWhile drop).reverse := by
    rw [trimBy, hr, ← List.reverse_append, List.takeWhile_append_dropWhile, List.reverse_reverse]
  refine ⟨s.takeWhile drop, (r.reverse.takeWhile drop).reverse, ?_, fun a ha => ?_, fun a ha => ?_,
    fun a ha => ?_, fun a ha => ?_⟩
  · rw [List.append_assoc, ← hsplit, ← hr, List.takeWhile_append_dropWhile]
  · exact List.mem_takeWhile_imp ha
  · exact List.mem_takeWhile_imp (List.mem_reverse.mp ha)
  · have hhead : r.head? = some a := by
      rw [hsplit, List.head?_append, Option.mem_def.mp ha]
      rfl
    have hfirst := List.head?_dropWhile_not drop s
    rw [hr, hhead] at hfirst
    simpa using hfirst
  · have hfirst := List.head?_dropWhile_not drop r.reverse
    rw [trimBy, hr, List.getLast?_reverse, Option.mem_def] at ha
    rw [ha] at hfirst
    simpa using hfirst

end

theorem trimPoints_toNat (s : List Char) :
    trimPoints (s.map Char.toNat) = (trim s).map Char.toNat := by
  have hblank : isBlankPoint ∘ Char.toNat = isBlank := by
    funext c
    simp only [Function.comp, isBlankPoint, Char.ofNat_toNat]
  simp only [trimPoints, trim, trimBy, List.dropWhile_map, hblank, ← List.map_reverse]

/-! ## Blanks in lower case -/

/-- The code points of the blanks. -/
def blanks : List Nat :=
  blankRanges.flatMap fun range => (List.range (range.2 + 1 - range.1)).map (range.1 + ·)

variable {c d : Char}

theorem mem_blanks (h : isBlank c = true) : c.toNat ∈ blanks := by
  obtain ⟨range, hrange, hbounds⟩ := List.any_eq_true.mp h
  simp only [Bool.and_eq_true, decide_eq_true_eq] at hbounds
  refine List.mem_flatMap.mpr ⟨range, hrange, List.mem_map.mpr ⟨c.toNat - range.1, ?_, ?_⟩⟩
  · rw [List.mem_range]
    omega
  · omega

/-- A character of a set that has no blank in it is none. -/
theorem isBlank_eq_false {points : List Nat} (hnone : bits points &&& bits blanks = 0)
    (hc : c.toNat ∈ points) : isBlank c = false := by
  rw [← Bool.not_eq_true]
  intro hblank
  exact notMem_of_bits hnone hc (mem_blanks hblank)

/-- No row of the table of capital letters holds a blank, nor leads to one. -/
theorem caseShifts_not_blank :
    bits (caseShifts.flatMap CaseShift.capitals) &&& bits blanks = 0 ∧
      bits (caseShifts.flatMap CaseShift.smalls) &&& bits blanks = 0 := by
  decide +kernel

theorem toLower_blank : ∀ n < 0x80, isBlank (Char.ofNat n).toLower = isBlank (Char.ofNat n) := by
  decide +kernel

theorem isBlankPoint_toNat (c : Char) : isBlankPoint c.toNat = isBlank c := by
  rw [isBlankPoint, Char.ofNat_toNat]

/-- What a character becomes in lower case is a blank just if the character is one. -/
theorem isBlank_of_mem_lowerChar (h : d ∈ lowerChar c) : isBlank d = isBlank c := by
  unfold lowerChar at h
  split at h
  · next hascii =>
    obtain rfl := List.mem_singleton.mp h
    have hsame := toLower_blank c.toNat hascii
    rwa [Char.ofNat_toNat] at hsame
  · split at h
    · next hdot =>
      rw [hdot]
      simp only [List.mem_cons, List.not_mem_nil, or_false] at h
      rcases h with rfl | rfl <;> decide +kernel
    · split at h
      · next s hs =>
        obtain rfl := List.mem_singleton.mp h
        obtain ⟨hmem, hcapital⟩ := CaseShift.mem_capitals_of_find hs
        have hlarge : isBlank c = false := isBlank_eq_false caseShifts_not_blank.1
          (List.mem_flatMap.mpr ⟨s, hmem, hcapital⟩)
        have hsmall : ((c.toNat : Int) + s.delta).toNat ∈ caseShifts.flatMap CaseShift.smalls :=
          List.mem_flatMap.mpr ⟨s, hmem, List.mem_map.mpr ⟨c.toNat, hcapital, rfl⟩⟩
        rw [hlarge]
        apply isBlank_eq_false caseShifts_not_blank.2
        rw [toNat_ofNat ((caseShifts_sound hmem).small_valid hcapital)]
        exact hsmall
      · obtain rfl := List.mem_singleton.mp h
        rfl

/-- How many code points one becomes in lower case. -/
def lowerWidth (p : Nat) : Nat := if isHalf p then 1 else (lowerChar (.ofNat p)).length

theorem lowerChar_ne_nil (c : Char) : lowerChar c ≠ [] := by
  unfold lowerChar
  split
  · simp
  · split
    · simp
    · split <;> simp

theorem lowerWidth_pos (p : Nat) : 0 < lowerWidth p := by
  unfold lowerWidth
  split
  · decide
  · exact List.length_pos_iff.mpr (lowerChar_ne_nil _)

/-- Which of the code points that one becomes are blanks. -/
def lowerBlanks (p : Nat) : List Bool := List.replicate (lowerWidth p) (isBlankPoint p)

theorem map_isBlank_lowerChar (c : Char) : (lowerChar c).map isBlank =
    List.replicate (lowerChar c).length (isBlank c) := by
  rw [List.eq_replicate_iff]
  refine ⟨List.length_map _, fun b hb => ?_⟩
  obtain ⟨d, hd, rfl⟩ := List.mem_map.mp hb
  exact isBlank_of_mem_lowerChar hd

theorem lowerBlanks_of_char {p : Nat} (h : isHalf p = false) :
    lowerBlanks p = (lowerChar (.ofNat p)).map isBlank := by
  simp only [map_isBlank_lowerChar, lowerBlanks, lowerWidth, h, isBlankPoint, Bool.false_eq_true,
    if_false]

theorem lowerFrom_blanks (before s : List Char) :
    (lowerFrom before s).map isBlank = s.flatMap fun c => (lowerChar c).map isBlank := by
  induction s generalizing before with
  | nil => rfl
  | cons c rest ih =>
    rw [lowerFrom, List.map_append, ih, List.flatMap_cons]
    congr 1
    split
    · next hsigma =>
      rw [hsigma]
      split <;> decide +kernel
    · rfl

theorem lowerRuns_blanks (run : List Char) (points : List Nat) :
    (lowerRuns run points).map isBlankPoint =
      (run.reverse.flatMap fun c => (lowerChar c).map isBlank) ++ points.flatMap lowerBlanks := by
  have hlower : ∀ s : List Char, ((lower s).map Char.toNat).map isBlankPoint =
      s.flatMap fun c => (lowerChar c).map isBlank := by
    intro s
    rw [← lowerFrom_blanks [] s, List.map_map]
    exact List.map_congr_left fun c _ => isBlankPoint_toNat c
  induction points generalizing run with
  | nil => rw [lowerRuns, hlower, List.flatMap_nil, List.append_nil]
  | cons p rest ih =>
    rw [lowerRuns, List.flatMap_cons]
    split
    · next hhalf =>
      have hone : lowerBlanks p = [isBlankPoint p] := by simp [lowerBlanks, lowerWidth, hhalf]
      rw [List.map_append, List.map_cons, ih, hlower, hone]
      rfl
    · next hhalf =>
      rw [ih, List.reverse_cons, List.flatMap_append, List.flatMap_singleton,
        lowerBlanks_of_char (by simpa using hhalf), List.append_assoc]

theorem lowerPoints_blanks (points : List Nat) :
    (lowerPoints points).map isBlankPoint = points.flatMap lowerBlanks := by
  rw [lowerPoints, lowerRuns_blanks]
  rfl

theorem lowerBlanks_ends (p : Nat) : (lowerBlanks p).head? = some (isBlankPoint p) ∧
    (lowerBlanks p).getLast? = some (isBlankPoint p) := by
  obtain ⟨k, hk⟩ : ∃ k, lowerWidth p = k + 1 := ⟨lowerWidth p - 1, by have := lowerWidth_pos p; omega⟩
  constructor
  · simp [lowerBlanks, hk, List.replicate_succ]
  · simp [lowerBlanks, hk, List.replicate_succ']

/-- Nothing blank stands at either end. -/
def Unpadded (points : List Nat) : Prop := EndsWithout isBlankPoint points

theorem unpadded_iff {points : List Nat} : Unpadded points ↔
    (points.map isBlankPoint).head? ≠ some true ∧ (points.map isBlankPoint).getLast? ≠ some true := by
  simp [Unpadded, EndsWithout]

/-- **A text is padded just if it is in lower case.** -/
theorem unpadded_lowerPoints {points : List Nat} :
    Unpadded (lowerPoints points) ↔ Unpadded points := by
  have hfirst : (points.flatMap lowerBlanks).head? = (points.map isBlankPoint).head? := by
    cases points with
    | nil => rfl
    | cons p rest => simp [(lowerBlanks_ends p).1]
  have hlast : (points.flatMap lowerBlanks).getLast? = (points.map isBlankPoint).getLast? := by
    rcases List.eq_nil_or_concat points with rfl | ⟨rest, p, rfl⟩
    · rfl
    · simp [(lowerBlanks_ends p).2]
  rw [unpadded_iff, lowerPoints_blanks, hfirst, hlast, ← unpadded_iff]

/-- A row of code points is a text in any letter case, with any blanks around it. -/
def Spells (points text : List Nat) : Prop :=
  ∃ front core back, points = front ++ core ++ back ∧ (∀ p ∈ front, isBlankPoint p = true) ∧
    (∀ p ∈ back, isBlankPoint p = true) ∧ lowerPoints core = lowerPoints text

theorem spells_self (text : List Nat) : Spells text text :=
  ⟨[], text, [], by simp, by simp, by simp, rfl⟩

/-- **What padded texts are the same up to letter case** as a text without padding: those that are
so when their padding is taken off. -/
theorem spells_iff {points text : List Nat} : Unpadded text ∧ Spells points text ↔
    lowerPoints (trimPoints points) = lowerPoints text := by
  constructor
  · rintro ⟨htext, front, core, back, rfl, hfront, hback, hsame⟩
    have hcore : Unpadded core := by
      rw [← unpadded_lowerPoints, hsame, unpadded_lowerPoints]
      exact htext
    rw [trimPoints, trimBy_padded hfront hback hcore]
    exact hsame
  · intro hsame
    obtain ⟨front, back, hpadded, hfront, hback, hcore⟩ := exists_padded isBlankPoint points
    refine ⟨?_, front, trimPoints points, back, hpadded, hfront, hback, hsame⟩
    rw [← unpadded_lowerPoints, ← hsame, unpadded_lowerPoints]
    exact hcore

end LedStudio.Text
