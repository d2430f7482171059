import LedStudio.Proofs.Sketch.LineByLine
import LedStudio.Proofs.Sketch.Token

/-!
# What is written for the wiring

The texts of the wiring may look like tokens. A token that is replaced after such a text was put in is
replaced in it as well, and if one is left the sketch is refused. So a text without a token is written
as it is, and a text with one is either refused or written as something else: a type of LEDs that
looks like the token for the order of the colours is written as that order.

* `holdsToken_rows` — a token in a sketch stands in what is written for the wiring.
* `slot_of_free` — a text without a token is written as it is.
* `options_emitted` — the sketch for any wiring, and when there is none.
-/

namespace LedStudio

theorem Text.infix_append_cons_iff {α : Type} {old : List α} {mark : α} (hmark : mark ∉ old)
    (front back : List α) : old <:+: front ++ mark :: back ↔ old <:+: front ∨ old <:+: back := by
  induction front with
  | nil =>
    have hprefix := prefix_append_cons_iff hmark [] back
    rw [List.nil_append, List.prefix_nil] at hprefix
    rw [List.nil_append, List.infix_cons_iff, hprefix, List.infix_nil]
  | cons c front ih =>
    have hprefix := prefix_append_cons_iff hmark (c :: front) back
    rw [List.cons_append] at hprefix ⊢
    rw [List.infix_cons_iff, List.infix_cons_iff, ih, hprefix, or_assoc]

namespace Template

/-! ## Tokens in the parts of a text -/

theorem HoldsToken.sign_mem {text : List Char} (h : HoldsToken text) : '@' ∈ text := by
  obtain ⟨t, ⟨name, -, -, rfl⟩, hin⟩ := h
  exact hin.subset List.mem_cons_self

theorem holdsToken_append_cons {c : Char} (hsign : c ≠ '@') (hc : isNameChar c = false)
    (front back : List Char) :
    HoldsToken (front ++ c :: back) ↔ HoldsToken front ∨ HoldsToken back := by
  have hmark {t : List Char} (ht : IsToken t) : c ∉ t := by
    obtain ⟨name, -, hname, rfl⟩ := ht
    have hnot : c ∉ name := fun hmem => by
      rw [isNameChar_iff.mpr (hname c hmem)] at hc
      cases hc
    simp [hsign, hnot]
  have hsplit : HoldsToken (front ++ c :: back) ↔
      ∃ t, IsToken t ∧ (t <:+: front ∨ t <:+: back) :=
    exists_congr fun t => and_congr_right fun ht => Text.infix_append_cons_iff (hmark ht) _ _
  simp only [hsplit, and_or_left, exists_or]
  rfl

/-- A token in a text stands in one of its lines. -/
theorem holdsToken_intercalate {lines : List (List Char)} :
    HoldsToken (['\n'].intercalate lines) ↔ ∃ line ∈ lines, HoldsToken line := by
  induction lines with
  | nil =>
    have hempty : ¬HoldsToken [] := fun h => absurd h.sign_mem List.not_mem_nil
    simp [List.intercalate, hempty]
  | cons line rest ih =>
    cases rest with
    | nil => simp [List.intercalate]
    | cons next rest =>
      rw [List.intercalate_cons_cons, List.append_assoc, List.singleton_append,
        holdsToken_append_cons (by decide) (by decide), ih]
      simp only [List.exists_mem_cons_iff]

section

variable {α : Type} [BEq α] [LawfulBEq α] {write : Char → α} {values : List (String × List α)}

/-- A text without tokens is not changed. -/
theorem fill_of_free (h : ∀ entry ∈ values, IsName entry.1) {text : List α}
    (htext : ¬∃ t, IsToken t ∧ t.map write <:+: text) : fill write values text = text :=
  fill_eq_self fun entry hentry hin => htext ⟨token entry.1, (h entry hentry).isToken, hin⟩

end

/-- Behind a text that has no sign and does not end like a name, a token stands in what follows. -/
theorem holdsToken_append {front text : List Char} (hfront : '@' ∉ front)
    (hlast : front.getLast?.any isNameChar = false) (hne : front ≠ []) :
    HoldsToken (front ++ text) ↔ HoldsToken text := by
  obtain rfl | ⟨start, c, rfl⟩ := List.eq_nil_or_concat front
  · exact absurd rfl hne
  · rw [List.concat_eq_append] at hfront hlast ⊢
    simp only [List.mem_append, List.mem_singleton, not_or] at hfront
    rw [List.getLast?_concat] at hlast
    rw [List.append_assoc, List.singleton_append,
      holdsToken_append_cons (Ne.symm hfront.2) hlast, or_iff_right]
    exact fun h => hfront.1 h.sign_mem

end Template

namespace Sketch

open Template (HoldsToken IsToken render token fill emitted written spelled)

/-! ## Tokens in a sketch -/

/-- The lines of a sketch that are not those of the wiring hold no sign. -/
theorem sign_not_mem_rows (pattern : PatternRef) (strip : Setup) (pin type order : String) :
    ∀ line ∈ rows id pattern strip pin type order, line = "#define LED_PIN     " ++ pin ∨
      line = "#define LED_TYPE    " ++ type ∨ line = "#define COLOR_ORDER " ++ order ∨
      '@' ∉ line.toList := by
  have hname := pattern.sign_not_mem_sketchName
  have hroutine := pattern.sign_not_mem_routineName
  have hsnippet := pattern.sign_not_mem_snippet
  have hcount := sign_not_mem_toString strip.ledCount
  have hlevel := sign_not_mem_toString strip.brightness
  have hdelay := sign_not_mem_toString strip.frameDelay
  have hjoin {a b : String} (ha : '@' ∉ a.toList) (hb : '@' ∉ b.toList) :
      '@' ∉ (a ++ b).toList := by
    rw [String.toList_append, List.mem_append, not_or]
    exact ⟨ha, hb⟩
  have hfree {s : String} (hs : '@' ∉ s.toList) : s = "#define LED_PIN     " ++ pin ∨
      s = "#define LED_TYPE    " ++ type ∨ s = "#define COLOR_ORDER " ++ order ∨ '@' ∉ s.toList :=
    .inr (.inr (.inr hs))
  simp only [rows, front, rear, id_eq, List.forall_mem_append, List.forall_mem_cons,
    List.not_mem_nil, false_imp_iff, implies_true, and_true]
  refine ⟨⟨?_, hfree (by decide), hfree (by decide), .inl trivial, ?_, ?_, .inr (.inl trivial),
      .inr (.inr (.inl trivial)), hfree (by decide), hfree (by decide), hfree (by decide),
      hfree (by decide), hfree (by decide), hfree (by decide), hfree (by decide),
      hfree (by decide), hfree (by decide), ?_, hfree (by decide), ?_, hfree (by decide),
      hfree (by decide), ?_, hfree (by decide), hfree (by decide), hfree (by decide)⟩,
    ?_, hfree (by decide), hfree (by decide), hfree (by decide), hfree (by decide)⟩
  · exact hfree (hjoin (hjoin (by decide) hname) (by decide))
  · exact hfree (hjoin (by decide) hcount)
  · exact hfree (hjoin (by decide) hlevel)
  · exact hfree (hjoin (hjoin (by decide) hroutine) (by decide))
  · exact hfree (hjoin (hjoin (by decide) hdelay) (by decide))
  · exact hfree (hjoin (hjoin (by decide) hroutine) (by decide))
  · exact hfree (hjoin (by decide) hsnippet)

/-- **A sketch holds a token just if what is written for the wiring does.** -/
theorem holdsToken_rows {pattern : PatternRef} {strip : Setup} {pin type order : String} :
    HoldsToken ("\n".intercalate (rows id pattern strip pin type order)).toList ↔
      HoldsToken pin.toList ∨ HoldsToken type.toList ∨ HoldsToken order.toList := by
  have hbreak : "\n".toList = ['\n'] := rfl
  have hpin : HoldsToken ("#define LED_PIN     " ++ pin).toList ↔ HoldsToken pin.toList := by
    rw [String.toList_append, Template.holdsToken_append (by decide) (by decide) (by decide)]
  have htype : HoldsToken ("#define LED_TYPE    " ++ type).toList ↔ HoldsToken type.toList := by
    rw [String.toList_append, Template.holdsToken_append (by decide) (by decide) (by decide)]
  have horder : HoldsToken ("#define COLOR_ORDER " ++ order).toList ↔ HoldsToken order.toList := by
    rw [String.toList_append, Template.holdsToken_append (by decide) (by decide) (by decide)]
  rw [String.toList_intercalate, hbreak, Template.holdsToken_intercalate, ← hpin, ← htype, ← horder]
  simp only [List.mem_map, exists_exists_and_eq_and]
  constructor
  · rintro ⟨line, hline, hholds⟩
    obtain rfl | rfl | rfl | hfree := sign_not_mem_rows pattern strip pin type order line hline
    · exact .inl hholds
    · exact .inr (.inl hholds)
    · exact .inr (.inr hholds)
    · exact absurd hholds.sign_mem hfree
  · rintro (hholds | hholds | hholds)
    all_goals exact ⟨_, by simp [rows, front], hholds⟩

/-! ## What is written for the wiring -/

/-- The texts of the wiring by the names of their slots. -/
def wired {β : Type} (pin type order : β) : List (String × β) :=
  [("LED_PIN", pin), ("LED_TYPE", type), ("COLOR_ORDER", order)]

section

variable {α : Type} [BEq α] [LawfulBEq α] {write : Char → α} {pattern : PatternRef} {strip : Setup}
  {pin type order : List α}

/-- A text of the wiring without a token is written as it is. -/
theorem emitted_of_free {name : String} {v : List α}
    (hv : (name, v) ∈ wired pin type order) (hfree : ¬∃ t, IsToken t ∧ t.map write <:+: v) :
    emitted write name (slotValues write pattern strip pin type order) = v := by
  have hvalues := slotValues_named write pattern strip pin type order
  have hlater (k : Nat) :
      fill write ((slotValues write pattern strip pin type order).drop k) v = v :=
    Template.fill_of_free (fun entry hentry => hvalues entry (List.mem_of_mem_drop hentry)) hfree
  simp only [wired, List.mem_cons, Prod.mk.injEq, List.not_mem_nil, or_false] at hv
  rcases hv with ⟨rfl, rfl⟩ | ⟨rfl, rfl⟩ | ⟨rfl, rfl⟩
  · exact hlater 2
  · exact hlater 5
  · exact hlater 6

end

section

variable {pattern : PatternRef} {strip : Setup} {pin type order : String}

theorem slot_of_free {name v : String} (hv : (name, v) ∈ wired pin type order)
    (hfree : ¬HoldsToken v.toList) : slot pattern strip pin type order name = v := by
  have hmem : (name, v.toList) ∈ wired pin.toList type.toList order.toList :=
    List.mem_map_of_mem (f := fun entry : String × String => (entry.1, entry.2.toList)) hv
  have hrow : ¬∃ t, IsToken t ∧ t.map id <:+: v.toList := by
    simp only [List.map_id]
    exact hfree
  rw [slot, emitted_of_free hmem hrow, String.ofList_toList]

/-- What is written for the type of the LEDs depends on the order of the colours only if the token
for it is in the type. -/
theorem type_slot_congr (h : ¬token "COLOR_ORDER" <:+: type.toList) (otherPin otherOrder : String) :
    slot pattern strip otherPin type otherOrder "LED_TYPE" =
      slot pattern strip pin type order "LED_TYPE" := by
  have hpass (order : List Char) : Text.replaceAll (Template.written id "COLOR_ORDER") order
      type.toList = type.toList := by
    refine Text.replaceAll_of_not_infix ?_
    rwa [Template.written, List.map_id]
  have hslot (pin order : String) : slot pattern strip pin type order "LED_TYPE" =
      .ofList (fill id ((slotValues id pattern strip [] [] []).drop 6) type.toList) := by
    change String.ofList (fill id (("COLOR_ORDER", order.toList) :: _) type.toList) = _
    rw [Template.fill_cons, hpass]
    rfl
  rw [hslot, hslot]

/-- What is written for the order of the colours depends on nothing else that the wiring has. -/
theorem order_slot_congr (otherPin otherType : String) :
    slot pattern strip otherPin otherType order "COLOR_ORDER" =
      slot pattern strip pin type order "COLOR_ORDER" := by
  have hslot (pin type : String) : slot pattern strip pin type order "COLOR_ORDER" =
      .ofList (fill id ((slotValues id pattern strip [] [] []).drop 6) order.toList) := rfl
  rw [hslot, hslot]

/-- The check of a sketch looks at what is written for the wiring. -/
theorem check_rendered :
    Template.check (render sketchTemplate.toList (tokenValues pattern strip pin type order)) =
        .ok () ↔
      ∀ entry ∈ wired pin type order,
        ¬HoldsToken (slot pattern strip pin type order entry.1).toList := by
  rw [Template.check_ok_iff, render_rows, holdsToken_rows]
  simp only [wired, not_or, List.forall_mem_cons, List.not_mem_nil, false_imp_iff, implies_true,
    and_true]

end

section

variable (pattern : PatternRef) {count level speed : Value} {wiring : Wiring} {strip : Setup}
  {pin type order : String} (hstrip : Setup.clamped count level speed = .ok strip)
  (hcount : isWritableInt strip.ledCount = true) (hpin : wiring.ledPin.written = .ok pin)
  (htype : replacement wiring.ledType = .ok type)
  (horder : replacement wiring.colorOrder = .ok order)
include hstrip hcount hpin htype horder

/-- A sketch is written if nothing that is written for the wiring holds a token. -/
theorem generate_rows (hfree : ∀ entry ∈ wired pin type order,
      ¬HoldsToken (slot pattern strip pin type order entry.1).toList) :
    ∃ log, generate pattern count level speed wiring = .ok ("\n".intercalate
      (rows id pattern strip (slot pattern strip pin type order "LED_PIN")
        (slot pattern strip pin type order "LED_TYPE")
        (slot pattern strip pin type order "COLOR_ORDER")), log) := by
  have hgenerate := generate_of_check hstrip hpin (if_pos hcount) htype horder rfl
    (check_rendered.mpr hfree)
  rw [render_rows, String.ofList_toList] at hgenerate
  obtain ⟨⟨code, log⟩, hwritten, rfl⟩ := Outcome.map_eq_ok hgenerate
  exact ⟨log, hwritten⟩

/-- It is refused otherwise. -/
theorem generate_refused (hholds : ∃ entry ∈ wired pin type order,
      HoldsToken (slot pattern strip pin type order entry.1).toList) :
    ∃ tokens, generate pattern count level speed wiring = .error (.unresolvedTokens tokens) := by
  cases hcheck : Template.check
      (render sketchTemplate.toList (tokenValues pattern strip pin type order)) with
  | ok _ =>
    obtain ⟨entry, hentry, hholds⟩ := hholds
    exact absurd hholds (check_rendered.mp hcheck entry hentry)
  | error fault =>
    obtain ⟨tokens, rfl, -⟩ := Template.reported hcheck
    have hgenerate : (generate pattern count level speed wiring).map Prod.fst =
        .error (.unresolvedTokens tokens) := by
      rw [generate_checked hstrip hpin (if_pos hcount) htype horder rfl, hcheck]
      rfl
    exact ⟨tokens, Outcome.map_eq_error hgenerate⟩

/-- Texts without tokens are written as they are. -/
theorem generate_given (hfree : ∀ entry ∈ wired pin type order, ¬HoldsToken entry.2.toList) :
    ∃ log, generate pattern count level speed wiring =
      .ok ("\n".intercalate (rows id pattern strip pin type order), log) := by
  have hslot (entry : String × String) (hentry : entry ∈ wired pin type order) :
      slot pattern strip pin type order entry.1 = entry.2 :=
    slot_of_free hentry (hfree entry hentry)
  have hpinSlot := hslot ("LED_PIN", pin) (by simp [wired])
  have htypeSlot := hslot ("LED_TYPE", type) (by simp [wired])
  have horderSlot := hslot ("COLOR_ORDER", order) (by simp [wired])
  have hrows := generate_rows pattern hstrip hcount hpin htype horder
    fun entry hentry => by
      rw [hslot entry hentry]
      exact hfree entry hentry
  simp only at hpinSlot htypeSlot horderSlot
  rwa [hpinSlot, htypeSlot, horderSlot] at hrows

omit hstrip hcount in
/-- The code points of a sketch with the texts of the wiring, whether or not they are characters. -/
theorem codePoints_rows (hfree : ∀ entry ∈ wired pin type order, ¬HoldsToken entry.2.toList) :
    codePoints pattern strip wiring = ['\n'.toNat].intercalate
      (rows (spelled Char.toNat) pattern strip (spelled Char.toNat pin) wiring.ledType.points
        wiring.colorOrder.points) := by
  have hvalues : codePoints pattern strip wiring = sketchText Char.toNat pattern strip
      (spelled Char.toNat pin) wiring.ledType.points wiring.colorOrder.points := by
    rw [codePoints, display_of_written hpin]
    simp only [sketchText, fill, slotValues, tokenValues, tokenPoints, spelled, written,
      List.map_cons, List.map_nil, String.reduceEq, if_true, if_false]
  have hpoints {v : Value} {s : String} (hv : replacement v = .ok s) (hs : ¬HoldsToken s.toList) :
      ¬∃ t, IsToken t ∧ t.map Char.toNat <:+: v.points := by
    have hshown : (Text.shownPoints v.points).toList = s.toList :=
      String.toList_ofList.trans (replacement_eq_ok hv)
    rwa [← Template.holdsToken_shownPoints, hshown]
  have hpinPoints : ¬∃ t, IsToken t ∧ t.map Char.toNat <:+: spelled Char.toNat pin :=
    hpoints (v := .text pin) rfl (hfree ("LED_PIN", pin) (by simp [wired]))
  have htypePoints := hpoints htype (hfree ("LED_TYPE", type) (by simp [wired]))
  have horderPoints := hpoints horder (hfree ("COLOR_ORDER", order) (by simp [wired]))
  rw [hvalues, sketchText_rows Char.toNat pattern strip _ _ _ fun _ _ h => Char.toNat_inj.mp h,
    emitted_of_free (by simp [wired]) hpinPoints, emitted_of_free (by simp [wired]) htypePoints,
    emitted_of_free (by simp [wired]) horderPoints]

/-- **What is written for the wiring.** For any pattern, numbers that can be written and texts of
the wiring, a sketch is refused if a token is left in what is written for the wiring. Otherwise there
is one, and a text of the wiring is in it as it is just if it holds no token.

A text without a token is never written otherwise, whatever the other texts are. Without any token in
the wiring, all of it is in the sketch as it is, half characters too. What is written for the order
of the colours depends on no other text, and what is written for the type of the LEDs does only if
the token for that order is in it. All other lines are the same for any wiring. -/
theorem options_emitted :
    let written := slot pattern strip pin type order
    let sketch (pin type order : String) : String :=
      "\n".intercalate (rows id pattern strip pin type order)
    ((∃ tokens, generate pattern count level speed wiring = .error (.unresolvedTokens tokens) ∧
          ∃ entry ∈ wired pin type order, HoldsToken (written entry.1).toList) ∨
      ((∃ log, generate pattern count level speed wiring =
          .ok (sketch (written "LED_PIN") (written "LED_TYPE") (written "COLOR_ORDER"), log)) ∧
        ∀ entry ∈ wired pin type order,
          written entry.1 = entry.2 ↔ ¬HoldsToken entry.2.toList)) ∧
    (∀ entry ∈ wired pin type order, ¬HoldsToken entry.2.toList → written entry.1 = entry.2) ∧
    ((∀ entry ∈ wired pin type order, ¬HoldsToken entry.2.toList) →
      (∃ log, generate pattern count level speed wiring = .ok (sketch pin type order, log)) ∧
      codePoints pattern strip wiring = ['\n'.toNat].intercalate
        (rows (spelled Char.toNat) pattern strip (spelled Char.toNat pin) wiring.ledType.points
          wiring.colorOrder.points)) ∧
    (∀ otherPin otherType, slot pattern strip otherPin otherType order "COLOR_ORDER" =
      written "COLOR_ORDER") ∧
    (¬token "COLOR_ORDER" <:+: type.toList → ∀ otherPin otherOrder,
      slot pattern strip otherPin type otherOrder "LED_TYPE" = written "LED_TYPE") := by
  intro written sketch
  have hkept : ∀ entry ∈ wired pin type order, ¬HoldsToken entry.2.toList →
      written entry.1 = entry.2 := fun entry hentry hfree => slot_of_free hentry hfree
  refine ⟨?_, hkept, fun hfree => ?_, order_slot_congr, type_slot_congr⟩
  · by_cases hholds : ∃ entry ∈ wired pin type order, HoldsToken (written entry.1).toList
    · obtain ⟨tokens, hrefused⟩ := generate_refused pattern hstrip hcount hpin htype horder hholds
      exact .inl ⟨tokens, hrefused, hholds⟩
    · push Not at hholds
      refine .inr ⟨generate_rows pattern hstrip hcount hpin htype horder hholds, fun entry hentry =>
        ⟨fun heq => ?_, hkept entry hentry⟩⟩
      rw [← heq]
      exact hholds entry hentry
  · exact ⟨generate_given pattern hstrip hcount hpin htype horder hfree,
      codePoints_rows pattern hpin htype horder hfree⟩

end

/-- The wiring that a strip has by itself. -/
theorem options_emitted_default :
    let strip : Setup := ⟨3, 80, 50⟩
    Setup.clamped (.int 3) (.int 80) (.int 50) = .ok strip ∧
      isWritableInt strip.ledCount = true ∧
      (∀ entry ∈ wired "6" "WS2812B" "GRB", ¬HoldsToken entry.2.toList) ∧
      ∃ log, generate (.id .rainbow) (.int 3) (.int 80) (.int 50) {} =
        .ok ("\n".intercalate (rows id (.id .rainbow) strip "6" "WS2812B" "GRB"), log) := by
  intro strip
  have hstrip : Setup.clamped (.int 3) (.int 80) (.int 50) = .ok strip :=
    clamped_ints (by decide) 80 50
  have hcount : isWritableInt strip.ledCount = true := isWritableInt_of_digit (by decide)
  have hsign : ∀ entry ∈ wired "6" "WS2812B" "GRB", '@' ∉ entry.2.toList := by decide
  have hfree : ∀ entry ∈ wired "6" "WS2812B" "GRB", ¬HoldsToken entry.2.toList :=
    fun entry hentry hholds => hsign entry hentry hholds.sign_mem
  have hemitted := options_emitted (.id .rainbow) hstrip hcount Wiring.plain_default.ledPin rfl rfl
  exact ⟨hstrip, hcount, hfree, (hemitted.2.2.1 hfree).1⟩

/-- A type of LEDs that looks like the token for the order of the colours is not refused: the sketch
has that order in its place. -/
theorem type_taken_for_order :
    let wiring : Wiring := { ledType := .text "@@COLOR_ORDER@@" }
    let strip : Setup := ⟨3, 80, 50⟩
    let lines := rows id (.id .rainbow) strip "6" "GRB" "GRB"
    (∃ log, generate (.id .rainbow) (.int 3) (.int 80) (.int 50) wiring =
      .ok ("\n".intercalate lines, log)) ∧
    "#define LED_TYPE    @@COLOR_ORDER@@" ∉ lines := by
  intro wiring strip lines
  have hstrip : Setup.clamped (.int 3) (.int 80) (.int 50) = .ok strip :=
    clamped_ints (by decide) 80 50
  have hcount : isWritableInt strip.ledCount = true := isWritableInt_of_digit (by decide)
  have hpin : wiring.ledPin.written = .ok "6" := Wiring.plain_default.ledPin
  have hpinSlot : slot (.id .rainbow) strip "6" "@@COLOR_ORDER@@" "GRB" "LED_PIN" = "6" := by
    decide +kernel
  have htypeSlot : slot (.id .rainbow) strip "6" "@@COLOR_ORDER@@" "GRB" "LED_TYPE" = "GRB" := by
    decide +kernel
  have horderSlot :
      slot (.id .rainbow) strip "6" "@@COLOR_ORDER@@" "GRB" "COLOR_ORDER" = "GRB" := by
    decide +kernel
  have hsign : ∀ entry ∈ wired "6" "@@COLOR_ORDER@@" "GRB",
      '@' ∉ (slot (.id .rainbow) strip "6" "@@COLOR_ORDER@@" "GRB" entry.1).toList := by
    decide +kernel
  have hrows := generate_rows (.id .rainbow) hstrip hcount hpin rfl rfl
    fun entry hentry hholds => hsign entry hentry hholds.sign_mem
  rw [hpinSlot, htypeSlot, horderSlot] at hrows
  exact ⟨hrows, by decide +kernel⟩

end Sketch
end LedStudio
