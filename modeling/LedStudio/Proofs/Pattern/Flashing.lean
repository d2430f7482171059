import Mathlib.Tactic.IntervalCases
import LedStudio.Proofs.Outcome
import LedStudio.Proofs.Pattern.Whole

/-!
# Patterns that flash

Police and strobe show one of two pictures, told by the frame alone: police changes every three frames,
strobe every two. The picture of a police strip has two halves, of which the second one is longer by
an LED if the strip has an odd number of them.

* `countP_phase` — half of six frames in a row belong to each phase.
* `police_and_strobe` — the pictures at full brightness, what six frames show, and when frames come
  back.
-/

namespace LedStudio

/-- A police strip: the first half is red in one phase of three frames, the second is blue in the
other. -/
def policeStrip (size : Nat) (frame : Int) : List Color :=
  if frame / 3 % 2 = 0 then
    List.replicate (size / 2) .pureRed ++ List.replicate (size - size / 2) .black
  else List.replicate (size / 2) .black ++ List.replicate (size - size / 2) .pureBlue

/-! ## The rules -/

theorem fmod_fdiv_of_nonneg (frame : Int) (d : Nat) :
    Int.fmod (Int.fdiv frame d) 2 = frame / d % 2 := by
  rw [Int.fmod_eq_emod_of_nonneg _ (by decide), Int.fdiv_eq_ediv_of_nonneg _ (by omega)]

theorem Rule.police_eq (i frame count : Int) : Rule.police i frame count =
    if i < count / 2 then if frame / 3 % 2 = 0 then .pureRed else .black
    else if frame / 3 % 2 = 1 then .pureBlue else .black := by
  have hphase : Int.fmod (Int.fdiv frame 3) 2 = frame / 3 % 2 := fmod_fdiv_of_nonneg frame 3
  have hhalf : Int.fdiv count 2 = count / 2 := Int.fdiv_eq_ediv_of_nonneg count (by decide)
  simp only [Rule.police, hphase, hhalf]

theorem Rule.strobe_eq (frame : Int) :
    Rule.strobe frame = if frame / 2 % 2 = 0 then .white else .black := by
  have hphase : Int.fmod (Int.fdiv frame 2) 2 = frame / 2 % 2 := fmod_fdiv_of_nonneg frame 2
  simp only [Rule.strobe, hphase]

/-! ## Police -/

section

variable {size : Nat} {frame : Int}

theorem policeStrip_length (size : Nat) (frame : Int) : (policeStrip size frame).length = size := by
  unfold policeStrip
  split <;> simp only [List.length_append, List.length_replicate] <;> omega

theorem policeStrip_getElem {i : Nat} (hi : i < (policeStrip size frame).length) :
    (policeStrip size frame)[i] = Rule.police i frame size := by
  have hhalf : ((i : Int) < (size : Int) / 2) ↔ i < size / 2 := by omega
  simp only [Rule.police_eq, hhalf, policeStrip]
  split
  · next heven =>
    have hodd : ¬frame / 3 % 2 = 1 := by omega
    simp only [List.getElem_append, List.length_replicate, List.getElem_replicate, hodd, if_false]
    split <;> rfl
  · next hodd =>
    have heven : frame / 3 % 2 = 1 := by omega
    simp only [List.getElem_append, List.length_replicate, List.getElem_replicate, heven, if_true]
    split <;> rfl

/-- An LED of a police strip is lit in the phase of its half. -/
theorem policeStrip_lit {i : Nat} (hi : i < size) :
    (policeStrip size frame)[i]? ≠ some .black ↔
      frame / 3 % 2 = if i < size / 2 then 0 else 1 := by
  have hlength : i < (policeStrip size frame).length := by rwa [policeStrip_length]
  have hhalf : ((i : Int) < (size : Int) / 2) ↔ i < size / 2 := by omega
  have hred : Color.pureRed ≠ .black := by decide
  have hblue : Color.pureBlue ≠ .black := by decide
  rw [List.getElem?_eq_getElem hlength, policeStrip_getElem, Rule.police_eq, ne_eq,
    Option.some.injEq]
  simp only [hhalf]
  split_ifs with hfirst hphase hphase
  · simp only [hred, hphase, not_false_eq_true]
  · simp only [hphase, not_true_eq_false]
  · simp only [hblue, hphase, not_false_eq_true]
  · simp only [hphase, not_true_eq_false]

/-- Red and blue are the colours of different phases. -/
theorem policeStrip_apart (size : Nat) (frame : Int) :
    ¬(Color.pureRed ∈ policeStrip size frame ∧ Color.pureBlue ∈ policeStrip size frame) := by
  have hred : Color.pureRed ≠ .black := by decide
  have hblue : Color.pureBlue ≠ .black := by decide
  have hother : Color.pureRed ≠ .pureBlue := by decide
  unfold policeStrip
  split
  · simp only [List.mem_append, List.mem_replicate, hother.symm, hblue, and_false, or_false,
      not_false_eq_true]
  · simp only [List.mem_append, List.mem_replicate, hred, hother, and_false, or_false, false_and,
      not_false_eq_true]

end

/-- Half of six frames in a row belong to each phase of three. -/
theorem countP_phase (frame : Int) {phase : Int} (hphase : phase = 0 ∨ phase = 1) :
    (List.range 6).countP (fun (j : Nat) => decide ((frame + j) / 3 % 2 = phase)) = 3 := by
  have hturn : ∀ j : Nat, (frame + j) / 3 % 2 = (frame % 6 + j) / 3 % 2 := by
    intro j
    omega
  have hlow := Int.emod_nonneg frame (by decide : (6 : Int) ≠ 0)
  have hhigh := Int.emod_lt_of_pos frame (by decide : (0 : Int) < 6)
  simp only [hturn]
  generalize frame % 6 = first at hlow hhigh
  obtain rfl | rfl := hphase <;> interval_cases first <;> decide

/-- Each LED of a police strip is lit in three of six frames in a row. -/
theorem countP_lit_police {size i : Nat} (hi : i < size) (frame : Int) :
    (List.range 6).countP (fun (j : Nat) => decide ((policeStrip size (frame + j))[i]? ≠ some .black)) =
      3 := by
  have hphase : (if i < size / 2 then (0 : Int) else 1) = 0 ∨
      (if i < size / 2 then (0 : Int) else 1) = 1 := by
    split
    · exact .inl rfl
    · exact .inr rfl
  simp only [policeStrip_lit hi]
  exact countP_phase frame hphase

/-! ## Whole strips -/

section

variable {ref : PatternRef} {n frame : Int}

theorem computeFrame_police (hpolice : ref.resolve = some .police) (hn : 1 ≤ n) (hframe : 0 ≤ frame)
    {full : Value} (hfull : full.IsFull) (stream : Stream) :
    (computeFrame ref (.int n) frame full stream).leds = .ok (policeStrip n.toNat frame) := by
  refine computeFrame_of_painted hn hframe (policeStrip_length _ _) (fun i hi x => ?_) stream
  have hsize : (n.toNat : Int) = n := by omega
  rw [hpolice, policeStrip_getElem, hsize]
  exact Color.withBrightness_full _ hfull

theorem computeFrame_strobe (hstrobe : ref.resolve = some .strobe) (hn : 1 ≤ n) (hframe : 0 ≤ frame)
    {brightness : Value} {c : Color} (hc : (Rule.strobe frame).withBrightness brightness = .ok c)
    (stream : Stream) :
    (computeFrame ref (.int n) frame brightness stream).leds = .ok (List.replicate n.toNat c) := by
  refine computeFrame_of_painted hn hframe List.length_replicate (fun i hi x => ?_) stream
  rw [hstrobe, List.getElem_replicate]
  exact hc

/-- Police is the same again after every six frames. -/
theorem police_recurs (i frame count : Int) (k : Nat) :
    Rule.police i (frame + 6 * k) count = Rule.police i frame count := by
  have hphase : (frame + 6 * k) / 3 % 2 = frame / 3 % 2 := by omega
  simp only [Rule.police_eq, hphase]

/-- Strobe is the same again after every four frames. -/
theorem strobe_recurs (frame : Int) (k : Nat) :
    Rule.strobe (frame + 4 * k) = Rule.strobe frame := by
  have hphase : (frame + 4 * k) / 2 % 2 = frame / 2 % 2 := by omega
  simp only [Rule.strobe_eq, hphase]

end

/-- **Police and strobe, whole strips.** Let there be at least one LED and let the frame be any that is
not below zero. At full brightness, the first half of a police strip is red and the rest black in the
phases with an even number, and the first half is black and the rest blue in the others, where the
first half has the smaller half of an odd number of LEDs. In six frames in a row each LED is lit in
exactly three, and in no frame are red and blue seen together. A strobe strip has one colour for all
its LEDs at every brightness that is a number: what is left of white for two frames and of black for
two. At every brightness, police comes back after six frames, and strobe after four, as often as one
likes. -/
theorem police_and_strobe {n frame : Int} (hn : 1 ≤ n) (hframe : 0 ≤ frame) (stream : Stream) :
    (∀ ref : PatternRef, ref.resolve = some .police →
      (∀ full : Value, full.IsFull → ∀ later : Nat,
        (computeFrame ref (.int n) (frame + later) full stream).leds =
          .ok (policeStrip n.toNat (frame + later))) ∧
      (∀ i < n.toNat, (List.range 6).countP (fun (later : Nat) =>
        decide ((policeStrip n.toNat (frame + later))[i]? ≠ some .black)) = 3) ∧
      (∀ later : Nat, ¬(Color.pureRed ∈ policeStrip n.toNat (frame + later) ∧
        Color.pureBlue ∈ policeStrip n.toNat (frame + later))) ∧
      ∀ (brightness : Value) (k : Nat),
        computeFrame ref (.int n) (frame + 6 * k) brightness stream =
          computeFrame ref (.int n) frame brightness stream) ∧
    (∀ ref : PatternRef, ref.resolve = some .strobe →
      (∀ brightness b, brightness.number? = some b → ∃ c,
        (if frame / 2 % 2 = 0 then Color.white else Color.black).withBrightness brightness = .ok c ∧
        (computeFrame ref (.int n) frame brightness stream).leds =
          .ok (List.replicate n.toNat c)) ∧
      ∀ (brightness : Value) (k : Nat),
        computeFrame ref (.int n) (frame + 4 * k) brightness stream =
          computeFrame ref (.int n) frame brightness stream) := by
  refine ⟨fun ref hpolice => ⟨fun full hfull later => ?_, fun i hi => ?_, fun later => ?_,
    fun brightness k => ?_⟩, fun ref hstrobe => ⟨fun brightness b hb => ?_, fun brightness k => ?_⟩⟩
  · exact computeFrame_police hpolice hn (by omega) hfull stream
  · exact countP_lit_police hi frame
  · exact policeStrip_apart _ _
  · refine computeFrame_recurs hn hframe (by omega) (fun i x => ?_) brightness stream
    rw [hpolice]
    exact congrArg _ (police_recurs i frame n k)
  · obtain ⟨c, hc⟩ := Color.withBrightness_ok (Rule.strobe frame) hb
    refine ⟨c, ?_, computeFrame_strobe hstrobe hn hframe hc stream⟩
    rwa [← Rule.strobe_eq]
  · refine computeFrame_recurs hn hframe (by omega) (fun i x => ?_) brightness stream
    rw [hstrobe]
    exact congrArg _ (strobe_recurs frame k)

/-- A single LED in a late frame belongs to the second half: it is blue in its phase, and dark in the
next. At a tenth of the brightness the flash of the strobe is grey. -/
theorem police_and_strobe_single :
    let police : PatternRef := .value (.text "POLICE")
    let strobe : PatternRef := .id .strobe
    let frame : Int := 6 * 10 ^ 20 + 5
    (1 : Int) ≤ 1 ∧ 0 ≤ frame ∧ police.resolve = some .police ∧ strobe.resolve = some .strobe ∧
    (Value.int 100).IsFull ∧ (Value.int 10).number? = some (.int 10) ∧
    (computeFrame police (.int 1) frame (.int 100) sparks).leds = .ok [.pureBlue] ∧
    (computeFrame police (.int 1) (frame + 1) (.int 100) sparks).leds = .ok [.black] ∧
    (computeFrame strobe (.int 1) frame (.int 10) sparks).leds = .ok [⟨26, 26, 26⟩] ∧
    computeFrame police (.int 1) (frame + 6 * 7) (.int 10) sparks =
      computeFrame police (.int 1) frame (.int 10) sparks := by
  intro police strobe frame
  have hpolice : police.resolve = some .police := by decide +kernel
  have hframe : 0 ≤ frame := by decide
  obtain ⟨hred, hgrey⟩ := police_and_strobe (n := 1) (Int.le_refl 1) hframe sparks
  obtain ⟨hfull, -, -, hagain⟩ := hred police hpolice
  obtain ⟨c, hc, hleds⟩ := (hgrey strobe rfl).1 (.int 10) (.int 10) rfl
  have hshade : Color.white.withBrightness (.int 10) = .ok ⟨26, 26, 26⟩ :=
    Outcome.eq_ok_of_toOption (by decide +kernel)
  rw [if_pos (by decide), hshade] at hc
  obtain rfl := Except.ok.inj hc
  exact ⟨Int.le_refl 1, hframe, hpolice, rfl, Value.isFull_hundred, rfl,
    hfull _ Value.isFull_hundred 0, hfull _ Value.isFull_hundred 1, hleds, hagain (.int 10) 7⟩

end LedStudio
