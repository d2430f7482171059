import LedStudio.Proofs.Outcome
import LedStudio.Proofs.Sketch.Layout

/-!
# The lines of a sketch

Read line by line, a sketch is the template with a value on each line that has a slot, as long as
what the wiring is written with keeps to its lines. The body of the routine and the comment at the
end take several lines; these are the same for all sketches of a pattern.

* `lines_laidOut` — the lines of the template with all slots filled.
* `Wiring.Tidy.lines` — the lines of a sketch that was written.
-/

namespace LedStudio

namespace Text

/-- The lines of a text: it is cut at every line break. -/
def lines (s : String) : List String := (s.toList.splitOn '\n').map .ofList

theorem splitOn_intercalate_lines {parts : List (List Char)} (h : parts ≠ []) :
    (['\n'].intercalate parts).splitOn '\n' = parts.flatMap (·.splitOn '\n') := by
  induction parts with
  | nil => exact absurd rfl h
  | cons part rest ih =>
    cases rest with
    | nil => simp [List.intercalate]
    | cons next rest =>
      rw [List.intercalate_cons_cons, List.append_assoc, List.singleton_append,
        List.splitOn_append_cons_self, ih (List.cons_ne_nil next rest)]
      rfl

end Text

namespace Sketch

open Template (marks fillSlots)

/-! ## The template, line by line -/

section

variable {β : Type} [Append β]

/-- The lines of a sketch up to the body of the routine, made of texts and of what stands in the
slots. -/
def front (text : String → β) (name pin count level type order routine delay : β) : List β :=
  [text "// LED Generator sketch: " ++ name ++ text " pattern",
   text "#include <FastLED.h>",
   text "",
   text "#define LED_PIN     " ++ pin,
   text "#define NUM_LEDS    " ++ count,
   text "#define BRIGHTNESS  " ++ level,
   text "#define LED_TYPE    " ++ type,
   text "#define COLOR_ORDER " ++ order,
   text "",
   text "CRGB leds[NUM_LEDS];",
   text "",
   text "void setup() \x7b",
   text "  FastLED.addLeds<LED_TYPE, LED_PIN, COLOR_ORDER>(leds, NUM_LEDS);",
   text "  FastLED.setBrightness(BRIGHTNESS);",
   text "\x7d",
   text "",
   text "void loop() \x7b",
   text "  " ++ routine ++ text "();",
   text "  FastLED.show();",
   text "  delay(" ++ delay ++ text ");",
   text "\x7d",
   text "",
   text "void " ++ routine ++ text "() \x7b",
   text "  static uint32_t frame = 0;",
   text "  frame++;",
   text ""]

/-- The rest of it, from the body of the routine on. -/
def rear (text : String → β) (body helpers : β) : List β :=
  [text "  " ++ body, text "\x7d", text "", helpers, text ""]

end

/-- The lines of a sketch. -/
def listing (pattern : PatternRef) (count level delay : Int) (pin type order : String) :
    List String :=
  front id pattern.sketchName pin (toString count) (toString level) type order pattern.routineName
    (toString delay) ++
  Text.lines ("  " ++ pattern.snippet) ++ ["\x7d", ""] ++ Text.lines Snippet.helpers ++ [""]

/-- A text without slots. -/
def plainMarks (s : String) : List (Mark Char) := s.toList.map .plain

/-- The template is these lines. -/
theorem marks_lines : marks sketchTemplate.toList = [.plain '\n'].intercalate
    (front plainMarks [.slot "PATTERN_NAME"] [.slot "LED_PIN"] [.slot "NUM_LEDS"]
      [.slot "BRIGHTNESS"] [.slot "LED_TYPE"] [.slot "COLOR_ORDER"] [.slot "ROUTINE"]
      [.slot "FRAME_DELAY"] ++
    rear plainMarks [.slot "PATTERN_BODY"] [.slot "HELPERS"]) := by
  rw [sketchTemplate, String.toList_intercalate]
  decide +kernel

/-- Filling the slots line by line. -/
theorem flatMap_intercalate {α β : Type} (f : α → List β) (sep : List α) (parts : List (List α)) :
    (sep.intercalate parts).flatMap f = (sep.flatMap f).intercalate (parts.map (·.flatMap f)) := by
  induction parts with
  | nil => rfl
  | cons part rest ih =>
    cases rest with
    | nil => simp [List.intercalate]
    | cons next rest =>
      rw [List.intercalate_cons_cons, List.flatMap_append, List.flatMap_append, ih]
      exact List.intercalate_cons_cons.symm

/-- A sketch is these lines. -/
theorem laidOut_lines (pattern : PatternRef) (n b k : Int) (pin type order : List Char) :
    laidOut id pattern n b k pin type order = ['\n'].intercalate
      (front String.toList pattern.sketchName.toList pin (toString (max 1 n)).toList
        (toString (max 0 (min 100 b))).toList type order pattern.routineName.toList
        (toString (100 - max 0 (min 100 k))).toList ++
      rear String.toList pattern.snippet.toList Snippet.helpers.toList) := by
  let fill (mark : Mark Char) : List Char :=
    mark.casesOn (fun c => [c]) (layout id pattern n b k pin type order)
  have hfill : laidOut id pattern n b k pin type order =
      (marks sketchTemplate.toList).flatMap fill := by
    unfold laidOut Template.fillSlots
    refine congrArg (fun f => (marks sketchTemplate.toList).flatMap f) (funext fun mark => ?_)
    cases mark <;> rfl
  have hplain (s : String) : (plainMarks s).flatMap fill = s.toList := by
    simp [plainMarks, List.flatMap_map, fill]
  have hslot (name : String) : [Mark.slot name].flatMap fill =
      layout id pattern n b k pin type order name := List.append_nil _
  rw [hfill, marks_lines, flatMap_intercalate]
  simp only [front, rear, List.map_append, List.map_cons, List.map_nil, List.flatMap_append, hplain,
    hslot, layout, List.map_id]
  rfl

/-! ## What keeps to its line -/

theorem newline_not_mem_toString (n : Int) : '\n' ∉ (toString n).toList :=
  fun h => absurd (isDigit_of_mem_toString h) (by decide)

theorem newline_not_mem_sketchName (pattern : PatternRef) : '\n' ∉ pattern.sketchName.toList :=
  fun h => absurd (PatternRef.isIdentifierChar_of_mem_sketchName h) (by decide)

theorem newline_not_mem_front {name pin count level type order routine delay : List Char}
    (h : ∀ value ∈ [name, pin, count, level, type, order, routine, delay], '\n' ∉ value) :
    ∀ line ∈ front String.toList name pin count level type order routine delay, '\n' ∉ line := by
  simp only [List.forall_mem_cons, List.not_mem_nil, false_imp_iff, implies_true, and_true] at h
  obtain ⟨hname, hpin, hcount, hlevel, htype, horder, hroutine, hdelay⟩ := h
  simp only [front, List.forall_mem_cons, List.not_mem_nil, false_imp_iff, implies_true, and_true,
    List.mem_append, not_or]
  and_intros <;> first | assumption | decide

theorem flatMap_splitOn {parts : List (List Char)} (h : ∀ part ∈ parts, '\n' ∉ part) :
    parts.flatMap (·.splitOn '\n') = parts := by
  induction parts with
  | nil => rfl
  | cons part rest ih =>
    obtain ⟨hpart, hrest⟩ := List.forall_mem_cons.mp h
    rw [List.flatMap_cons, List.splitOn_eq_singleton hpart, ih hrest]
    rfl

/-- The lines of a sketch whose wiring keeps to its lines. -/
theorem lines_laidOut (pattern : PatternRef) (n b k : Int) {pin type order : String}
    (hfree : ∀ s ∈ [pin, type, order], '\n' ∉ s.toList) :
    Text.lines (.ofList (laidOut id pattern n b k pin.toList type.toList order.toList)) =
      listing pattern (max 1 n) (max 0 (min 100 b)) (100 - max 0 (min 100 k)) pin type order := by
  have hroutine : '\n' ∉ pattern.routineName.toList := by
    rw [PatternRef.routineName, String.toList_append, List.mem_append, not_or]
    exact ⟨newline_not_mem_sketchName pattern, by decide⟩
  rw [Text.lines, String.toList_ofList, laidOut_lines,
    Text.splitOn_intercalate_lines (by simp [rear]), List.flatMap_append, flatMap_splitOn]
  · have hline {s : String} (h : '\n' ∉ s.toList) : s.toList.splitOn '\n' = [s.toList] :=
      List.splitOn_eq_singleton h
    simp only [listing, Text.lines, front, rear, List.map_append, List.map_cons, List.map_nil,
      List.flatMap_cons, List.flatMap_nil, String.ofList_append, String.ofList_toList,
      String.toList_append, id_eq, hline (s := "\x7d") (by decide), hline (s := "") (by decide),
      List.append_nil, List.append_assoc]
    rfl
  · refine newline_not_mem_front ?_
    simp only [List.forall_mem_cons, List.not_mem_nil, false_imp_iff, implies_true, and_true]
      at hfree ⊢
    exact ⟨newline_not_mem_sketchName pattern, hfree.1, newline_not_mem_toString _,
      newline_not_mem_toString _, hfree.2.1, hfree.2.2, hroutine, newline_not_mem_toString _⟩

/-! ## Sketches that are written -/

/-- A sketch that is written is the template with its tokens replaced, one after the other, and it has
passed the check. -/
theorem generate_eq_ok {pattern : PatternRef} {count level speed : Value} {wiring : Wiring}
    {code : String} {log : Log} (h : generate pattern count level speed wiring = .ok (code, log)) :
    ∃ strip pin type order, Setup.clamped count level speed = .ok strip ∧
      wiring.ledPin.written = .ok pin ∧ replacement wiring.ledType = .ok type ∧
      replacement wiring.colorOrder = .ok order ∧
      code.toList = Template.render sketchTemplate.toList
        (tokenValues pattern strip pin type order) ∧
      Template.check code.toList = .ok () := by
  obtain ⟨strip, hstrip, h⟩ := Outcome.bind_eq_ok h
  obtain ⟨pin, hpin, h⟩ := Outcome.bind_eq_ok h
  obtain ⟨_, -, h⟩ := Outcome.bind_eq_ok h
  obtain ⟨type, htype, h⟩ := Outcome.bind_eq_ok h
  obtain ⟨order, horder, h⟩ := Outcome.bind_eq_ok h
  obtain ⟨_, hcheck, h⟩ := Outcome.bind_eq_ok h
  obtain rfl := congrArg Prod.fst (Except.ok.inj h)
  exact ⟨strip, pin, type, order, hstrip, hpin, htype, horder, String.toList_ofList,
    (congrArg (Template.check · = .ok ()) String.toList_ofList).mpr hcheck⟩

theorem generate_render {pattern : PatternRef} {n b k : Int} (hn : 0 ≤ n) {wiring : Wiring}
    {code : String} {log : Log}
    (h : generate pattern (.int n) (.int b) (.int k) wiring = .ok (code, log)) :
    ∃ pin type order, wiring.ledPin.written = .ok pin ∧ replacement wiring.ledType = .ok type ∧
      replacement wiring.colorOrder = .ok order ∧
      code = .ofList (Template.render sketchTemplate.toList
        (tokenValues pattern (settings n b k) pin type order)) := by
  obtain ⟨strip, pin, type, order, hstrip, hpin, htype, horder, hcode, -⟩ := generate_eq_ok h
  rw [clamped_ints hn] at hstrip
  obtain rfl := Except.ok.inj hstrip
  exact ⟨pin, type, order, hpin, htype, horder, by rw [← hcode, String.ofList_toList]⟩

end Sketch

/-- What the wiring is written with holds no two signs side by side and keeps to its line. -/
structure Wiring.Tidy (w : Wiring) : Prop where
  free : ∀ s, w.ledPin.written = .ok s ∨ Sketch.replacement w.ledType = .ok s ∨
    Sketch.replacement w.colorOrder = .ok s → ¬Template.marker <:+: s.toList
  line : ∀ s, w.ledPin.written = .ok s ∨ Sketch.replacement w.ledType = .ok s ∨
    Sketch.replacement w.colorOrder = .ok s → '\n' ∉ s.toList

/-- **The lines of a sketch that was written** for a tidy wiring. -/
theorem Wiring.Tidy.lines {w : Wiring} (h : w.Tidy) {pattern : PatternRef} {n b k : Int}
    (hn : 0 ≤ n) {code : String} {log : Log}
    (hcode : Sketch.generate pattern (.int n) (.int b) (.int k) w = .ok (code, log)) :
    ∃ pin type order, w.ledPin.written = .ok pin ∧ Sketch.replacement w.ledType = .ok type ∧
      Sketch.replacement w.colorOrder = .ok order ∧
      Text.lines code = Sketch.listing pattern (max 1 n) (max 0 (min 100 b))
        (100 - max 0 (min 100 k)) pin type order := by
  obtain ⟨pin, type, order, hpin, htype, horder, rfl⟩ := Sketch.generate_render hn hcode
  have htexts : ∀ s ∈ [pin, type, order], w.ledPin.written = .ok s ∨
      Sketch.replacement w.ledType = .ok s ∨ Sketch.replacement w.colorOrder = .ok s := by
    simp only [List.forall_mem_cons, List.not_mem_nil, false_imp_iff, implies_true, and_true]
    exact ⟨.inl hpin, .inr (.inl htype), .inr (.inr horder)⟩
  obtain ⟨hrender, -⟩ := Sketch.render_settings pattern n b k
    (fun s hs => h.free s (htexts s hs)) (.refl _)
  refine ⟨pin, type, order, hpin, htype, horder, ?_⟩
  rw [hrender]
  exact Sketch.lines_laidOut pattern n b k fun s hs => h.line s (htexts s hs)

end LedStudio
