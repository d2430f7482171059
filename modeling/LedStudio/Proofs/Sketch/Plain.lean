import LedStudio.Proofs.Sketch.Layout

/-!
# Sketches that are sure to be written

A wiring of plain texts, such as the one a strip has by itself, puts nothing into a sketch that would
keep it from being written: no half characters, and no two signs side by side.

* `generate_plain`, `brokenPoints?_plain` — a sketch is written, and it is a text.
-/

namespace LedStudio

/-- The wiring is written with these texts, which hold no two signs side by side. -/
structure Wiring.Plain (w : Wiring) (pin type order : String) : Prop where
  ledPin : w.ledPin.written = .ok pin
  ledType : w.ledType = .text type
  colorOrder : w.colorOrder = .text order
  free : ∀ s ∈ [pin, type, order], ¬Template.marker <:+: s.toList

/-- The wiring that a strip has by itself. -/
theorem Wiring.plain_default : Wiring.Plain {} "6" "WS2812B" "GRB" where
  ledPin := if_pos (isWritableInt_of_digit (by decide))
  ledType := rfl
  colorOrder := rfl
  free := by
    have hsign : ∀ s ∈ ["6", "WS2812B", "GRB"], '@' ∉ s.toList := by decide
    exact fun s hs hmarked => hsign s hs (hmarked.subset List.mem_cons_self)

namespace Sketch

variable {wiring : Wiring} {ledPin ledType colorOrder : String}

/-- What stands in a slot is made of characters, if the wiring is. -/
theorem mem_layout {α : Type} {write : Char → α} {pattern : PatternRef} {n b k : Int}
    {pin type order : List α} (hwiring : ∀ x ∈ pin ++ type ++ order, ∃ c, x = write c)
    {name : String} {x : α} (hx : x ∈ layout write pattern n b k pin type order name) :
    ∃ c, x = write c := by
  have htext : ∀ s : String, x ∈ s.toList.map write → ∃ c, x = write c := by
    intro s hs
    obtain ⟨c, -, rfl⟩ := List.mem_map.mp hs
    exact ⟨c, rfl⟩
  unfold layout at hx
  simp only at hx
  split at hx
  case h_2 => exact hwiring x (by simp [hx])
  case h_5 => exact hwiring x (by simp [hx])
  case h_6 => exact hwiring x (by simp [hx])
  case h_11 => cases hx
  all_goals exact htext _ hx

theorem mem_laidOut {α : Type} {write : Char → α} {pattern : PatternRef} {n b k : Int}
    {pin type order : List α} (hwiring : ∀ x ∈ pin ++ type ++ order, ∃ c, x = write c) {x : α}
    (hx : x ∈ laidOut write pattern n b k pin type order) : ∃ c, x = write c := by
  obtain ⟨m, -, hm⟩ := List.mem_flatMap.mp hx
  cases m with
  | plain c => exact ⟨c, List.mem_singleton.mp hm⟩
  | slot name => exact mem_layout hwiring hm

/-- A sketch is written, if its number of LEDs can be. -/
theorem generate_plain (h : wiring.Plain ledPin ledType colorOrder) (pattern : PatternRef) {n : Int}
    (hn : 0 ≤ n) (hsize : isWritableInt n = true) (b k : Int) :
    ∃ log, generate pattern (.int n) (.int b) (.int k) wiring = .ok (.ofList
      (laidOut id pattern n b k ledPin.toList ledType.toList colorOrder.toList), log) := by
  have hcode := generate_laidOut pattern hn hsize b k h.ledPin (by rw [h.ledType]; rfl)
    (by rw [h.colorOrder]; rfl) h.free
  cases hgen : generate pattern (.int n) (.int b) (.int k) wiring with
  | error f =>
    rw [hgen] at hcode
    cases hcode
  | ok written =>
    rw [hgen] at hcode
    exact ⟨written.2, by rw [← Except.ok.inj hcode]⟩

/-- A sketch holds no half characters. -/
theorem brokenPoints?_plain (h : wiring.Plain ledPin ledType colorOrder) (pattern : PatternRef)
    {n : Int} (hn : 0 ≤ n) (b k : Int) :
    brokenPoints? pattern (.int n) (.int b) (.int k) wiring = none := by
  have hpoints := codePoints_laidOut pattern n b k h.ledPin (by rw [h.ledType]; rfl)
    (by rw [h.colorOrder]; rfl) h.free
  have hwhole : (codePoints pattern (settings n b k) wiring).any Text.isHalf = false := by
    rw [List.any_eq_false, hpoints]
    intro x hx
    obtain ⟨c, rfl⟩ := mem_laidOut (fun y hy => by
      simp only [h.ledType, h.colorOrder, Value.points, List.mem_append, List.mem_map] at hy
      rcases hy with (⟨c, -, rfl⟩ | ⟨c, -, rfl⟩) | ⟨c, -, rfl⟩ <;> exact ⟨c, rfl⟩) hx
    simp only [Text.isHalf_toNat, Bool.false_eq_true, not_false_eq_true]
  simp only [brokenPoints?, clamped_ints hn, Option.filter_some, hwhole, Bool.false_eq_true,
    if_false]

end Sketch
end LedStudio
