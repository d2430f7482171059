import LedStudio.Proofs.Sketch.Reading
import LedStudio.Proofs.Strip
import LedStudio.Proofs.Text.Case
import LedStudio.Sketch.Basic

/-!
# The layout of a sketch

A sketch is its template with a value in each slot. The values that come from a caller may hold
anything but two signs side by side; those that come from a pattern or a number hold no sign at all.
So writing a sketch never fails on its values, and the order in which tokens are replaced is no
matter.

* `isIdentifierChar_of_mem_sketchName` — the name of a pattern in a sketch is made of identifier
  characters.
* `sketch_fills_slots` — a sketch is written, it is the template with all slots filled at once, and
  every order of the tokens gives the same text.
-/

namespace LedStudio

/-! ## Letters and digits -/

namespace Text

theorem isDigit_iff {c : Char} : c.isDigit = true ↔ '0' ≤ c ∧ c ≤ '9' :=
  Bool.and_eq_true_iff.trans (and_congr decide_eq_true_iff decide_eq_true_iff)

theorem isUpper_iff {c : Char} : c.isUpper = true ↔ 'A' ≤ c ∧ c ≤ 'Z' :=
  decide_eq_true_iff

theorem isLower_iff {c : Char} : c.isLower = true ↔ 'a' ≤ c ∧ c ≤ 'z' :=
  Bool.and_eq_true_iff.trans (and_congr decide_eq_true_iff decide_eq_true_iff)

end Text

/-! ## What the values are made of -/

theorem isIdentifierChar_of_mem_identifier {s : List Char} {c : Char} (h : c ∈ identifier s) :
    isIdentifierChar c = true := by
  have hmap : ∀ d ∈ (Text.trim s).map fun c => if isIdentifierChar c then c else '_',
      isIdentifierChar d = true := by
    intro d hd
    obtain ⟨x, -, rfl⟩ := List.mem_map.mp hd
    split
    · assumption
    · rfl
  unfold identifier at h
  split at h
  · exact List.all_eq_true.mp (by decide) c h
  · rename_i first rest heq
    rw [heq] at hmap
    split at h
    · obtain rfl | hrest := List.mem_cons.mp h
      · rfl
      · exact hmap c hrest
    · exact hmap c h

theorem PatternRef.isIdentifierChar_of_mem_sketchName {ref : PatternRef} {c : Char}
    (h : c ∈ ref.sketchName.toList) : isIdentifierChar c = true := by
  unfold sketchName at h
  split at h
  · rename_i p _
    have hall : p.name.toList.all isIdentifierChar = true := by
      cases p <;> decide
    exact List.all_eq_true.mp hall c h
  · rw [String.toList_ofList] at h
    exact isIdentifierChar_of_mem_identifier h

theorem PatternRef.sign_not_mem_sketchName (ref : PatternRef) : '@' ∉ ref.sketchName.toList :=
  fun h => absurd (isIdentifierChar_of_mem_sketchName h) (by decide)

theorem PatternRef.sign_not_mem_routineName (ref : PatternRef) : '@' ∉ ref.routineName.toList := by
  rw [routineName, String.toList_append, List.mem_append, not_or]
  exact ⟨ref.sign_not_mem_sketchName, by decide⟩

/-- The text of an integer is made of digits and perhaps a minus sign. -/
theorem isDigit_of_mem_toString {n : Int} {c : Char} (h : c ∈ (toString n).toList) :
    c = '-' ∨ c.isDigit = true := by
  have hnat : ∀ k : Nat, c ∈ k.repr.toList → c.isDigit = true := by
    intro k hk
    rw [Nat.repr, String.toList_ofList] at hk
    exact Nat.isDigit_of_mem_toDigits (by decide) (by decide) hk
  rw [Int.toString_eq_repr, Int.repr_eq_if] at h
  split at h
  · exact .inr (hnat n.toNat h)
  · rw [String.toList_append] at h
    exact (List.mem_append.mp h).imp List.mem_singleton.mp (hnat (-n).toNat)

theorem sign_not_mem_toString (n : Int) : '@' ∉ (toString n).toList :=
  fun h => absurd (isDigit_of_mem_toString h) (by decide)

theorem sign_not_mem_literal {s : String} {chars : List Char} (hs : s = .ofList chars)
    (h : '@' ∉ chars) : '@' ∉ s.toList := by
  rwa [hs, String.toList_ofList]

theorem Snippet.sign_not_mem_lines {parts : List String} (h : ∀ part ∈ parts, '@' ∉ part.toList) :
    '@' ∉ (lines parts).toList := by
  induction parts with
  | nil => decide
  | cons part rest ih =>
    have hrest := ih fun p hp => h p (List.mem_cons_of_mem part hp)
    have hpart := h part List.mem_cons_self
    cases rest with
    | nil => rwa [lines, String.intercalate_singleton]
    | cons next rest =>
      rw [lines, String.intercalate_cons_cons, String.toList_append, String.toList_append,
        List.mem_append, List.mem_append, not_or, not_or]
      exact ⟨⟨hpart, by decide⟩, hrest⟩

theorem PatternRef.sign_not_mem_snippet (ref : PatternRef) : '@' ∉ ref.snippet.toList := by
  unfold snippet
  split
  · rename_i p _
    cases p <;> refine Snippet.sign_not_mem_lines ?_ <;>
      simp only [List.forall_mem_cons, List.not_mem_nil, false_imp_iff, implies_true, and_true] <;>
      and_intros <;> exact sign_not_mem_literal rfl (by decide)
  · refine Snippet.sign_not_mem_lines ?_
    simp only [List.forall_mem_cons, List.not_mem_nil, false_imp_iff, implies_true, and_true]
    exact sign_not_mem_literal rfl (by decide)

namespace Text

/-! ## How code points are shown -/

/-- How a code point is shown: half characters by another one. -/
def shown (p : Nat) : Char := if isHalf p then '\ufffd' else .ofNat p

theorem shown_toNat (c : Char) : shown c.toNat = c := by
  rw [shown, isHalf_toNat, if_neg Bool.false_ne_true, Char.ofNat_toNat]

theorem map_shown_toNat (s : List Char) : (s.map Char.toNat).map shown = s := by
  simp only [List.map_map, Function.comp_def, shown_toNat, List.map_id']

end Text

namespace Sketch

open Template (IsName Unmarked fillIn fillSlots marks standApart marker written token)

/-! ## The slots -/

/-- The names of the slots. -/
def slotNames : List String :=
  ["PATTERN_NAME", "LED_PIN", "NUM_LEDS", "BRIGHTNESS", "LED_TYPE", "COLOR_ORDER", "ROUTINE",
    "FRAME_DELAY", "PATTERN_BODY", "HELPERS"]

variable {α : Type}

/-- What stands in the slot of a name, for numbers that need not be in range and a wiring as it is
written. -/
def layout (write : Char → α) (pattern : PatternRef) (n b k : Int)
    (ledPin ledType colorOrder : List α) (name : String) : List α :=
  let text (s : String) := s.toList.map write
  match name with
  | "PATTERN_NAME" => text pattern.sketchName
  | "LED_PIN" => ledPin
  | "NUM_LEDS" => text (toString (max 1 n))
  | "BRIGHTNESS" => text (toString (max 0 (min 100 b)))
  | "LED_TYPE" => ledType
  | "COLOR_ORDER" => colorOrder
  | "ROUTINE" => text (pattern.sketchName ++ "Pattern")
  | "FRAME_DELAY" => text (toString (100 - max 0 (min 100 k)))
  | "PATTERN_BODY" =>
    text (match pattern.resolve with
      | some p => p.snippet
      | none => Snippet.solidWhite)
  | "HELPERS" => text Snippet.helpers
  | _ => []

/-- The tokens of the template stand apart, and all of them are slots. -/
theorem marks_sketchTemplate :
    (marks sketchTemplate.toList).IsChain (fun a b => standApart a b = true) ∧
    (marks sketchTemplate.toList).all (fun m => match m with
      | .plain _ => true
      | .slot name => name ∈ slotNames) = true := by
  rw [sketchTemplate, String.toList_intercalate]
  decide +kernel

theorem mem_slotNames {name : String} (h : .slot name ∈ marks sketchTemplate.toList) :
    name ∈ slotNames := by
  simpa using List.all_eq_true.mp marks_sketchTemplate.2 _ h

/-- The values of a sketch hold no two signs side by side if those of the wiring do not. -/
theorem unmarked_layout {write : Char → α} (hwrite : ∀ x y, write x = write y → x = y)
    (pattern : PatternRef) (n b k : Int) {ledPin ledType colorOrder : List α}
    (hpin : Unmarked write ledPin) (htype : Unmarked write ledType)
    (horder : Unmarked write colorOrder) {name : String} (h : name ∈ slotNames) :
    Unmarked write (layout write pattern n b k ledPin ledType colorOrder name) := by
  have htext : ∀ s : String, '@' ∉ s.toList → Unmarked write (s.toList.map write) := by
    intro s hs
    refine Template.unmarked_of_not_mem fun hmem => ?_
    obtain ⟨c, hc, heq⟩ := List.mem_map.mp hmem
    exact hs (hwrite _ _ heq ▸ hc)
  simp only [slotNames, List.mem_cons, List.not_mem_nil, or_false] at h
  obtain rfl | rfl | rfl | rfl | rfl | rfl | rfl | rfl | rfl | rfl := h
  · exact htext _ pattern.sign_not_mem_sketchName
  · exact hpin
  · exact htext _ (sign_not_mem_toString _)
  · exact htext _ (sign_not_mem_toString _)
  · exact htype
  · exact horder
  · exact htext _ pattern.sign_not_mem_routineName
  · exact htext _ (sign_not_mem_toString _)
  · exact htext _ pattern.sign_not_mem_snippet
  · exact htext _ (by decide)

/-- The tokens of the template, in any order, each with its value. -/
theorem fillIn_layout [BEq α] [LawfulBEq α] {write : Char → α}
    (hwrite : ∀ x y, write x = write y → x = y) (pattern : PatternRef) (n b k : Int)
    {ledPin ledType colorOrder : List α} (hpin : Unmarked write ledPin)
    (htype : Unmarked write ledType) (horder : Unmarked write colorOrder)
    {values : List (String × List α)}
    (hvalues : values.Perm (slotNames.map fun name =>
      (name, layout write pattern n b k ledPin ledType colorOrder name))) :
    fillIn (sketchTemplate.toList.map write)
        (values.map fun entry => (written write entry.1, entry.2)) =
      fillSlots write (layout write pattern n b k ledPin ledType colorOrder)
        sketchTemplate.toList ∧
    Unmarked write (fillSlots write (layout write pattern n b k ledPin ledType colorOrder)
      sketchTemplate.toList) := by
  have hnames : ∀ name ∈ slotNames, IsName name := by decide
  have hnodup : (values.map (·.1)).Nodup := by
    refine (hvalues.map _).nodup_iff.mpr ?_
    rw [List.map_map]
    exact (by decide : (slotNames.map fun name => name).Nodup)
  refine Template.fillIn_template hwrite marks_sketchTemplate.1 ?_ fun name hslot => ?_
  · intro entry hentry
    obtain ⟨name, hname, rfl⟩ := List.mem_map.mp (hvalues.mem_iff.mp hentry)
    exact ⟨hnames name hname, unmarked_layout hwrite pattern n b k hpin htype horder hname⟩
  · refine Template.lookup_of_mem hnodup (hvalues.mem_iff.mpr ?_)
    exact List.mem_map.mpr ⟨name, mem_slotNames hslot, rfl⟩

/-! ## Writing a sketch -/

/-- The numbers of a sketch once they are clamped. -/
def settings (n b k : Int) : Setup := ⟨max 1 n, max 0 (min 100 b), max 0 (min 100 k)⟩

theorem clamped_ints {n : Int} (hn : 0 ≤ n) (b k : Int) :
    Setup.clamped (.int n) (.int b) (.int k) = .ok (settings n b k) := by
  have hneg : ¬n < 0 := by omega
  have hspeed : min 100 (max 0 k) = max 0 (min 100 k) := by omega
  simp only [Setup.clamped, clampLedCount, settingInt, hneg, if_false, clampLevel, Value.toInt,
    clampSpeed, Except.map, IntRange.clampInt, ledCountRange, speedRange, bind, Except.bind, pure,
    Except.pure, settings, hspeed]

theorem tokenValues_settings (pattern : PatternRef) (n b k : Int)
    (ledPin ledType colorOrder : String) :
    ((tokenValues pattern (settings n b k) ledPin ledType colorOrder).map
      fun entry => (entry.1, entry.2.toList)) =
    slotNames.map fun name => (name,
      layout id pattern n b k ledPin.toList ledType.toList colorOrder.toList name) := by
  simp only [tokenValues, settings, slotNames, layout, List.map_cons, List.map_nil, List.map_id]
  rfl

/-- The text of a setting of the wiring is its code points as they are shown. -/
theorem replacement_eq_ok {v : Value} {s : String} (h : replacement v = .ok s) :
    v.points.map Text.shown = s.toList := by
  cases v with
  | text t =>
    obtain rfl : t = s := Except.ok.inj h
    exact Text.map_shown_toNat t.toList
  | brokenText points =>
    cases h
    exact String.toList_ofList.symm
  | _ => cases h

theorem unmarked_points {v : Value} {s : String} (h : replacement v = .ok s)
    (hfree : ¬marker <:+: s.toList) : Unmarked Char.toNat v.points := by
  intro hmarker
  have hmap := hmarker.map Text.shown
  rw [Text.map_shown_toNat, replacement_eq_ok h] at hmap
  exact hfree hmap

theorem tokenPoints_settings (pattern : PatternRef) (n b k : Int) (wiring : Wiring)
    (ledPin : String) :
    ((tokenValues pattern (settings n b k) ledPin "" "").map
      fun entry => (entry.1, tokenPoints wiring entry.1 entry.2)) =
    slotNames.map fun name => (name, layout Char.toNat pattern n b k (ledPin.toList.map Char.toNat)
      wiring.ledType.points wiring.colorOrder.points name) := by
  simp only [tokenValues, settings, slotNames, layout, List.map_cons, List.map_nil]
  rfl

/-- The template with all slots filled at once. -/
def laidOut (write : Char → α) (pattern : PatternRef) (n b k : Int)
    (ledPin ledType colorOrder : List α) : List α :=
  fillSlots write (layout write pattern n b k ledPin ledType colorOrder) sketchTemplate.toList

/-- Replacing the tokens of the template by texts, in any order. -/
theorem render_settings (pattern : PatternRef) (n b k : Int) {ledPin ledType colorOrder : String}
    (hfree : ∀ s ∈ [ledPin, ledType, colorOrder], ¬marker <:+: s.toList)
    {values : List (String × String)}
    (hvalues : values.Perm (tokenValues pattern (settings n b k) ledPin ledType colorOrder)) :
    Template.render sketchTemplate.toList values =
      laidOut id pattern n b k ledPin.toList ledType.toList colorOrder.toList ∧
    ¬marker <:+: laidOut id pattern n b k ledPin.toList ledType.toList colorOrder.toList := by
  have hid : ∀ s ∈ [ledPin, ledType, colorOrder], Unmarked id s.toList := by
    intro s hs
    rw [Unmarked, List.map_id]
    exact hfree s hs
  have hentries := hvalues.map fun entry => (entry.1, entry.2.toList)
  rw [tokenValues_settings] at hentries
  have hinj : ∀ x y : Char, id x = id y → x = y := fun _ _ h => h
  have hfill := fillIn_layout hinj pattern n b k (hid ledPin (by simp)) (hid ledType (by simp))
    (hid colorOrder (by simp)) hentries
  simpa only [Unmarked, written, List.map_id, List.map_map, Function.comp_def, Template.render,
    laidOut] using hfill

/-- Replacing the tokens of the template by code points, in any order. -/
theorem fillIn_settings (pattern : PatternRef) (n b k : Int) {wiring : Wiring}
    {ledPin ledType colorOrder : String} (htype : replacement wiring.ledType = .ok ledType)
    (horder : replacement wiring.colorOrder = .ok colorOrder)
    (hfree : ∀ s ∈ [ledPin, ledType, colorOrder], ¬marker <:+: s.toList)
    {values : List (String × String)}
    (hvalues : values.Perm (tokenValues pattern (settings n b k) ledPin "" "")) :
    fillIn (sketchTemplate.toList.map Char.toNat) (values.map fun entry =>
        ((token entry.1).map Char.toNat, tokenPoints wiring entry.1 entry.2)) =
      laidOut Char.toNat pattern n b k (ledPin.toList.map Char.toNat) wiring.ledType.points
        wiring.colorOrder.points := by
  have hpin : Unmarked Char.toNat (ledPin.toList.map Char.toNat) :=
    unmarked_points (v := .text ledPin) rfl (hfree ledPin (by simp))
  have hentries := hvalues.map fun entry => (entry.1, tokenPoints wiring entry.1 entry.2)
  rw [tokenPoints_settings] at hentries
  have hfill := fillIn_layout (fun _ _ h => Char.toNat_inj.mp h) pattern n b k hpin
    (unmarked_points htype (hfree ledType (by simp)))
    (unmarked_points horder (hfree colorOrder (by simp))) hentries
  rw [List.map_map] at hfill
  exact hfill.1

theorem display_of_written {v : Value} {s : String} (h : v.written = .ok s) : v.display = s := by
  unfold Value.written at h
  split at h
  · exact Except.ok.inj h
  · cases h

theorem ok_bind {β γ : Type} (x : β) (f : β → Outcome γ) :
    ((Except.ok x : Outcome β) >>= f) = f x := rfl

section

variable {pattern : PatternRef} {count level speed : Value} {strip : Setup} {wiring : Wiring}
  {ledPin ledType colorOrder : String} {code : List Char}
  (hstrip : Setup.clamped count level speed = .ok strip)
  (hpin : wiring.ledPin.written = .ok ledPin)
  (hcount : writtenInt strip.ledCount = .ok (toString strip.ledCount))
  (htype : replacement wiring.ledType = .ok ledType)
  (horder : replacement wiring.colorOrder = .ok colorOrder)
  (hcode : Template.render sketchTemplate.toList
    (tokenValues pattern strip ledPin ledType colorOrder) = code)
include hstrip hpin hcount htype horder hcode

/-- With a wiring that can be written, only the check of the text keeps a sketch from being
written. -/
theorem generate_checked : (generate pattern count level speed wiring).map Prod.fst =
    (Template.check code).map fun _ => .ofList code := by
  unfold generate
  rw [hstrip, ok_bind, hpin, ok_bind, hcount, ok_bind, htype, ok_bind, horder, ok_bind]
  simp only [hcode]
  cases Template.check code <;> rfl

theorem generate_of_check (hcheck : Template.check code = .ok ()) :
    (generate pattern count level speed wiring).map Prod.fst = .ok (.ofList code) := by
  rw [generate_checked hstrip hpin hcount htype horder hcode, hcheck]
  rfl

end

/-- The text of a sketch. -/
theorem generate_laidOut (pattern : PatternRef) {n : Int} (hn : 0 ≤ n)
    (hsize : isWritableInt n = true) (b k : Int) {wiring : Wiring}
    {ledPin ledType colorOrder : String} (hpin : wiring.ledPin.written = .ok ledPin)
    (htype : replacement wiring.ledType = .ok ledType)
    (horder : replacement wiring.colorOrder = .ok colorOrder)
    (hfree : ∀ s ∈ [ledPin, ledType, colorOrder], ¬marker <:+: s.toList) :
    (generate pattern (.int n) (.int b) (.int k) wiring).map Prod.fst =
      .ok (.ofList (laidOut id pattern n b k ledPin.toList ledType.toList colorOrder.toList)) := by
  obtain ⟨hrender, hfilled⟩ := render_settings pattern n b k hfree (.refl _)
  have hcount : isWritableInt (settings n b k).ledCount = true := by
    have hone : isWritableInt 1 = true := isWritableInt_of_digit (by decide)
    obtain hmax | hmax : max 1 n = 1 ∨ max 1 n = n := by omega
    · rw [settings, hmax]
      exact hone
    · rw [settings, hmax]
      exact hsize
  exact generate_of_check (clamped_ints hn b k) hpin (if_pos hcount) htype horder hrender
    (Template.check_ok hfilled)

theorem codePoints_laidOut (pattern : PatternRef) (n b k : Int) {wiring : Wiring}
    {ledPin ledType colorOrder : String} (hpin : wiring.ledPin.written = .ok ledPin)
    (htype : replacement wiring.ledType = .ok ledType)
    (horder : replacement wiring.colorOrder = .ok colorOrder)
    (hfree : ∀ s ∈ [ledPin, ledType, colorOrder], ¬marker <:+: s.toList) :
    codePoints pattern (settings n b k) wiring =
      laidOut Char.toNat pattern n b k (ledPin.toList.map Char.toNat) wiring.ledType.points
        wiring.colorOrder.points := by
  rw [codePoints, display_of_written hpin]
  exact fillIn_settings pattern n b k htype horder hfree (.refl _)

/-- **A sketch is its template with every slot filled at once.** For any pattern or text in place of
one, any count of LEDs that is not negative and can be written, any brightness and speed, and a
wiring whose texts hold no two signs side by side, a sketch is written. Its text has in each slot the
value for it as it is, and replacing the tokens in any other order gives the same text. With half
characters in the wiring, this goes for the code points as well. -/
theorem sketch_fills_slots (pattern : PatternRef) {n : Int} (hn : 0 ≤ n)
    (hsize : isWritableInt n = true) (b k : Int) {wiring : Wiring}
    {ledPin ledType colorOrder : String} (hpin : wiring.ledPin.written = .ok ledPin)
    (htype : replacement wiring.ledType = .ok ledType)
    (horder : replacement wiring.colorOrder = .ok colorOrder)
    (hfree : ∀ s ∈ [ledPin, ledType, colorOrder], ¬marker <:+: s.toList) :
    (generate pattern (.int n) (.int b) (.int k) wiring).map Prod.fst =
      .ok (.ofList (laidOut id pattern n b k ledPin.toList ledType.toList colorOrder.toList)) ∧
    (∀ values : List (String × String),
      values.Perm (tokenValues pattern (settings n b k) ledPin ledType colorOrder) →
      Template.render sketchTemplate.toList values =
        laidOut id pattern n b k ledPin.toList ledType.toList colorOrder.toList) ∧
    codePoints pattern (settings n b k) wiring =
      laidOut Char.toNat pattern n b k (ledPin.toList.map Char.toNat) wiring.ledType.points
        wiring.colorOrder.points ∧
    (∀ values : List (String × String),
      values.Perm (tokenValues pattern (settings n b k) ledPin "" "") →
      fillIn (sketchTemplate.toList.map Char.toNat) (values.map fun entry =>
          ((token entry.1).map Char.toNat, tokenPoints wiring entry.1 entry.2)) =
        laidOut Char.toNat pattern n b k (ledPin.toList.map Char.toNat) wiring.ledType.points
          wiring.colorOrder.points) := by
  exact ⟨generate_laidOut pattern hn hsize b k hpin htype horder hfree,
    fun values h => (render_settings pattern n b k hfree h).1,
    codePoints_laidOut pattern n b k hpin htype horder hfree,
    fun values h => fillIn_settings pattern n b k htype horder hfree h⟩

/-- A wiring with signs in all of its texts. -/
def signedWiring : Wiring := ⟨.text "@", .text "@NUM_LEDS@", .text "HELPERS@"⟩

/-- No LEDs, numbers out of their ranges, and signs wherever a caller can put them. -/
theorem sketch_fills_slots_signs :
    (0 : Int) ≤ 0 ∧ isWritableInt 0 = true ∧
    (∀ s ∈ ["@", "@NUM_LEDS@", "HELPERS@"], ¬marker <:+: s.toList) ∧
    (generate (.value (.text "@@HELPERS@@")) (.int 0) (.int 250) (.int (-7)) signedWiring).map
        Prod.fst =
      .ok (.ofList (laidOut id (.value (.text "@@HELPERS@@")) 0 250 (-7) "@".toList
        "@NUM_LEDS@".toList "HELPERS@".toList)) := by
  have hsize : isWritableInt 0 = true := isWritableInt_of_digit (by decide)
  have hfree : ∀ s ∈ ["@", "@NUM_LEDS@", "HELPERS@"], ¬marker <:+: s.toList := by decide +kernel
  have hpin : signedWiring.ledPin.written = .ok "@" := rfl
  have htype : replacement signedWiring.ledType = .ok "@NUM_LEDS@" := rfl
  have horder : replacement signedWiring.colorOrder = .ok "HELPERS@" := rfl
  have hsketch := sketch_fills_slots (.value (.text "@@HELPERS@@")) (Int.le_refl 0) hsize 250 (-7)
    hpin htype horder hfree
  exact ⟨Int.le_refl 0, hsize, hfree, hsketch.1⟩

end Sketch
end LedStudio
