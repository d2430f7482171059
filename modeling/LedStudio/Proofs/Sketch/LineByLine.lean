import LedStudio.Proofs.Sketch.Listing

/-!
# Templates line by line

No token goes across a line break, nor across anything else that no token holds, so the tokens of a
text are replaced in each of its parts by itself. What comes into a slot is the value of its name, in
which only those tokens are replaced that are replaced later. What the wiring is written with may hold
anything, tokens as well: it changes the lines of the wiring, and all other lines of a sketch are what
they are for any wiring.

* `fill_append_cons`, `fill_intercalate` — part after part, and the whole text.
* `fill_slot` — a line with one slot.
* `fill_sketch`, `render_rows` — the lines of a sketch.
* `generate_around` — all of a sketch but the lines of the wiring.
-/

namespace LedStudio

namespace Text

variable {α : Type} [BEq α] [LawfulBEq α] {old new : List α} {mark : α}

omit [BEq α] [LawfulBEq α] in
/-- What begins before a mark that it does not hold ends before it. -/
theorem prefix_append_cons_iff (hmark : mark ∉ old) (front back : List α) :
    old <+: front ++ mark :: back ↔ old <+: front := by
  refine ⟨fun h => ?_, fun h => h.trans (List.prefix_append front _)⟩
  obtain hshort | hlong := Nat.lt_or_ge front.length old.length
  · have hsplit : front ++ [mark] <+: old := by
      refine List.prefix_of_prefix_length_le ⟨back, by simp⟩ h ?_
      rwa [List.length_append, List.length_singleton, Nat.succ_le_iff]
    exact absurd (hsplit.subset (by simp)) hmark
  · exact List.prefix_of_prefix_length_le h (List.prefix_append front _) hlong

theorem replaceFrom_append_cons (hold : old ≠ []) (hmark : mark ∉ old) (back : List α)
    {front : List α} {skip : Nat} (hskip : skip ≤ front.length) :
    replaceFrom old new skip (front ++ mark :: back) =
      replaceFrom old new skip front ++ mark :: replaceAll old new back := by
  induction front generalizing skip with
  | nil =>
    obtain rfl : skip = 0 := Nat.le_zero.mp hskip
    have hmiss : ¬old <+: mark :: back := fun h =>
      hold (List.prefix_nil.mp ((prefix_append_cons_iff hmark [] back).mp h))
    exact replaceAll_pass hmiss
  | cons c front ih =>
    cases skip with
    | succ skip => exact ih (Nat.le_of_succ_le_succ hskip)
    | zero =>
      have hprefix : old.isPrefixOf (c :: (front ++ mark :: back)) = old.isPrefixOf (c :: front) := by
        rw [Bool.eq_iff_iff, List.isPrefixOf_iff_prefix, List.isPrefixOf_iff_prefix]
        exact prefix_append_cons_iff hmark (c :: front) back
      simp only [List.cons_append, replaceFrom, hprefix]
      split
      · next hhit =>
        have hlength := (List.isPrefixOf_iff_prefix.mp hhit).length_le
        rw [ih (by simp only [List.length_cons] at hlength; omega), List.append_assoc]
      · rw [ih (Nat.zero_le _)]
        rfl

omit [LawfulBEq α] in
theorem replaceAll_nil : replaceAll old new [] = [] := rfl

theorem replaceAll_self (hold : old ≠ []) : replaceAll old new old = new := by
  have hhit : replaceAll old new (old ++ []) = new ++ replaceAll old new [] := replaceAll_hit hold []
  rwa [replaceAll_nil, List.append_nil, List.append_nil] at hhit

/-- A text stays as it is if what is replaced is not in it. -/
theorem replaceAll_of_not_infix {text : List α} (h : ¬old <:+: text) :
    replaceAll old new text = text := by
  induction text with
  | nil => rfl
  | cons c rest ih =>
    rw [replaceAll_pass fun hprefix => h hprefix.isInfix,
      ih fun hin => h (hin.trans (List.suffix_cons c rest).isInfix)]

end Text

namespace Template

section

variable {α : Type} {write : Char → α} {name : String}

/-- A text in the way it is written. -/
def spelled (write : Char → α) (s : String) : List α := s.toList.map write

theorem spelled_id (s : String) : spelled id s = s.toList := List.map_id _

/-! ## Part after part -/

theorem written_ne_nil (write : Char → α) (name : String) : written write name ≠ [] := by
  rw [written_eq]
  exact List.cons_ne_nil _ _

/-- What stands outside of tokens is not in them. -/
theorem not_mem_written (h : IsName name) {c : α} (hc : Outside write c) : c ∉ written write name := by
  rw [written_eq]
  simp only [List.mem_cons, List.mem_append, List.mem_map, List.not_mem_nil, or_false, not_or]
  refine ⟨hc '@' (.inl rfl), hc '@' (.inl rfl), ?_, hc '@' (.inl rfl), hc '@' (.inl rfl)⟩
  rintro ⟨x, hx, heq⟩
  exact hc x (.inr (h.chars x hx)) heq.symm

variable [BEq α]

/-- Replaces the tokens of names by texts, one name after the other. -/
def fill (write : Char → α) (values : List (String × List α)) (text : List α) : List α :=
  fillIn text (values.map fun entry => (written write entry.1, entry.2))

/-- What comes into the slot of a name: its value, with the tokens replaced that are replaced after
it; a name without a value leaves its token. -/
def emitted (write : Char → α) (name : String) : List (String × List α) → List α
  | [] => written write name
  | (other, v) :: rest => if other = name then fill write rest v else emitted write name rest

variable {values : List (String × List α)}

theorem fill_cons (entry : String × List α) (text : List α) : fill write (entry :: values) text =
    fill write values (Text.replaceAll (written write entry.1) entry.2 text) := rfl

variable [LawfulBEq α]

theorem fill_eq_self {text : List α} (h : ∀ entry ∈ values, ¬written write entry.1 <:+: text) :
    fill write values text = text := by
  induction values with
  | nil => rfl
  | cons entry values ih =>
    rw [fill_cons, Text.replaceAll_of_not_infix (h entry List.mem_cons_self)]
    exact ih fun e he => h e (List.mem_cons_of_mem entry he)

theorem fill_free {text : List α} (h : write '@' ∉ text) : fill write values text = text := by
  refine fill_eq_self fun entry _ hin => h (hin.subset ?_)
  rw [written_eq]
  exact List.mem_cons_self

variable (h : ∀ entry ∈ values, IsName entry.1)
include h

theorem fill_append_cons {c : α} (hc : Outside write c) (front back : List α) :
    fill write values (front ++ c :: back) =
      fill write values front ++ c :: fill write values back := by
  induction values generalizing front back with
  | nil => rfl
  | cons entry values ih =>
    have hname := h entry List.mem_cons_self
    have hpart : Text.replaceAll (written write entry.1) entry.2 (front ++ c :: back) =
        Text.replaceAll (written write entry.1) entry.2 front ++
          c :: Text.replaceAll (written write entry.1) entry.2 back :=
      Text.replaceFrom_append_cons (written_ne_nil _ _) (not_mem_written hname hc) back
        (Nat.zero_le _)
    rw [fill_cons, fill_cons, fill_cons, hpart]
    exact ih (fun e he => h e (List.mem_cons_of_mem entry he)) _ _

/-- **The tokens of a text are replaced line by line.** -/
theorem fill_intercalate {c : α} (hc : Outside write c) {lines : List (List α)}
    (hlines : lines ≠ []) : fill write values ([c].intercalate lines) =
      [c].intercalate (lines.map (fill write values)) := by
  induction lines with
  | nil => exact absurd rfl hlines
  | cons line rest ih =>
    cases rest with
    | nil => simp [List.intercalate]
    | cons next rest =>
      rw [List.intercalate_cons_cons, List.append_assoc, List.singleton_append,
        fill_append_cons h hc, ih (List.cons_ne_nil next rest)]
      simp only [List.map_cons, List.intercalate_cons_cons, List.append_assoc,
        List.singleton_append]

/-! ## A line with one slot -/

variable (hwrite : ∀ x y, write x = write y → x = y)
include hwrite

/-- A token by itself: the tokens before it pass it over, and those after it see its value. -/
theorem fill_written (hname : IsName name) :
    fill write values (written write name) = emitted write name values := by
  induction values with
  | nil => rfl
  | cons entry values ih =>
    obtain ⟨other, v⟩ := entry
    obtain ⟨hother, hvalues⟩ := List.forall_mem_cons.mp h
    rw [fill_cons, emitted]
    by_cases heq : other = name
    · subst heq
      rw [if_pos rfl, Text.replaceAll_self (written_ne_nil _ _)]
    · have hmiss : Text.replaceAll (written write other) v (written write name ++ []) =
          written write name ++ Text.replaceAll (written write other) v [] :=
        replaceAll_other hwrite hother hname (Ne.symm heq) (by simp)
      rw [Text.replaceAll_nil, List.append_nil] at hmiss
      rw [if_neg heq, hmiss]
      exact ih hvalues

omit [BEq α] [LawfulBEq α] h in
theorem outside_of_char {c : Char} (hsign : c ≠ '@') (hc : isNameChar c = false) :
    Outside write (write c) := by
  intro x hx heq
  obtain rfl := hwrite c x heq
  rcases hx with rfl | hx
  · exact hsign rfl
  · rw [hc] at hx
    cases hx

omit [BEq α] [LawfulBEq α] h in
theorem sign_not_mem_map {text : List Char} (htext : '@' ∉ text) : write '@' ∉ text.map write := by
  intro hmem
  obtain ⟨c, hc, heq⟩ := List.mem_map.mp hmem
  exact htext (hwrite _ _ heq ▸ hc)

/-- A line of a template: a slot between two texts that neither end nor begin like a name. -/
theorem fill_slot {front back : List Char} (hfront : '@' ∉ front) (hback : '@' ∉ back)
    (hlast : front.getLast?.any isNameChar = false) (hnext : back.head?.any isNameChar = false)
    (hname : IsName name) :
    fill write values (front.map write ++ written write name ++ back.map write) =
      front.map write ++ emitted write name values ++ back.map write := by
  have hend : fill write values (written write name ++ back.map write) =
      emitted write name values ++ back.map write := by
    cases back with
    | nil => simp only [List.map_nil, List.append_nil, fill_written h hwrite hname]
    | cons c back =>
      have hc : Outside write (write c) :=
        outside_of_char hwrite (List.ne_of_not_mem_cons hback).symm hnext
      rw [List.map_cons, fill_append_cons h hc, fill_written h hwrite hname,
        fill_free (sign_not_mem_map hwrite (List.not_mem_of_not_mem_cons hback))]
  obtain rfl | ⟨start, c, rfl⟩ := List.eq_nil_or_concat front
  · exact hend
  · rw [List.concat_eq_append] at hfront hlast ⊢
    simp only [List.mem_append, List.mem_singleton, not_or] at hfront
    rw [List.getLast?_concat] at hlast
    have hc : Outside write (write c) := outside_of_char hwrite (Ne.symm hfront.2) hlast
    simp only [List.map_append, List.map_cons, List.map_nil, List.append_assoc, List.cons_append,
      List.nil_append]
    rw [fill_append_cons h hc, fill_free (sign_not_mem_map hwrite hfront.1), hend]

end

end Template

namespace Sketch

open Template (render token fill emitted written spelled spelled_id IsName)

/-! ## The lines of a sketch -/

/-- The template is these lines. -/
theorem sketchTemplate_lines : sketchTemplate.toList = ['\n'].intercalate
    (front String.toList (token "PATTERN_NAME") (token "LED_PIN") (token "NUM_LEDS")
      (token "BRIGHTNESS") (token "LED_TYPE") (token "COLOR_ORDER") (token "ROUTINE")
      (token "FRAME_DELAY") ++
    rear String.toList (token "PATTERN_BODY") (token "HELPERS")) := by
  have hflat : sketchTemplate.toList =
      (Template.marks sketchTemplate.toList).flatMap (Template.markText id) := by
    have hread := Template.flatten_marksFrom id 0 sketchTemplate.toList
    have hid : (Mark.map id : Mark Char → Mark Char) = id := funext fun m => by cases m <;> rfl
    rw [hid, List.map_id, List.map_id, List.drop_zero] at hread
    exact hread.symm
  have hplain (s : String) : (plainMarks s).flatMap (Template.markText id) = s.toList := by
    simp [plainMarks, List.flatMap_map, Template.markText]
  have hslot (name : String) : [Mark.slot name].flatMap (Template.markText id) = token name := by
    simp [Template.markText, Template.written]
  have hbreak : [Mark.plain '\n'].flatMap (Template.markText id) = ['\n'] := rfl
  rw [hflat, marks_lines, flatMap_intercalate]
  simp only [front, rear, List.map_append, List.map_cons, List.map_nil, List.flatMap_append, hplain,
    hslot, hbreak]

theorem map_intercalate {α β : Type} (f : α → β) (sep : List α) (parts : List (List α)) :
    (sep.intercalate parts).map f = (sep.map f).intercalate (parts.map (List.map f)) := by
  have hmap (part : List α) : part.map f = part.flatMap fun x => [f x] := List.map_eq_flatMap
  rw [hmap, flatMap_intercalate]
  simp only [← hmap]

section

variable {α : Type} [BEq α] [LawfulBEq α] {write : Char → α}
  (hwrite : ∀ x y, write x = write y → x = y)
include hwrite

/-- **The lines of a sketch**, with something in each slot. -/
theorem fill_sketch {values : List (String × List α)} (h : ∀ entry ∈ values, IsName entry.1) :
    fill write values (spelled write sketchTemplate) = [write '\n'].intercalate
      (front (spelled write) (emitted write "PATTERN_NAME" values) (emitted write "LED_PIN" values)
          (emitted write "NUM_LEDS" values) (emitted write "BRIGHTNESS" values)
          (emitted write "LED_TYPE" values) (emitted write "COLOR_ORDER" values)
          (emitted write "ROUTINE" values) (emitted write "FRAME_DELAY" values) ++
        rear (spelled write) (emitted write "PATTERN_BODY" values)
          (emitted write "HELPERS" values)) := by
  have hbreak : Template.Outside write (write '\n') :=
    Template.outside_of_char hwrite (by decide) (by decide)
  have hplain (s : String) (hs : '@' ∉ s.toList) : fill write values (spelled write s) =
      spelled write s := Template.fill_free (Template.sign_not_mem_map hwrite hs)
  have hslot (start rest : String) {name : String} (hname : IsName name)
      (hstart : '@' ∉ start.toList ∧ start.toList.getLast?.any Template.isNameChar = false)
      (hrest : '@' ∉ rest.toList ∧ rest.toList.head?.any Template.isNameChar = false) :
      fill write values (spelled write start ++ written write name ++ spelled write rest) =
        spelled write start ++ emitted write name values ++ spelled write rest :=
    Template.fill_slot h hwrite hstart.1 hrest.1 hstart.2 hrest.2 hname
  have hend (start : String) {name : String} (hname : IsName name)
      (hstart : '@' ∉ start.toList ∧ start.toList.getLast?.any Template.isNameChar = false) :
      fill write values (spelled write start ++ written write name) =
        spelled write start ++ emitted write name values := by
    have hline := hslot start "" hname hstart (by decide)
    simpa only [spelled, String.toList_empty, List.map_nil, List.append_nil] using hline
  have halone {name : String} (hname : IsName name) :
      fill write values (written write name) = emitted write name values :=
    Template.fill_written h hwrite hname
  have hlines : spelled write sketchTemplate = [write '\n'].intercalate
      (front (spelled write) (written write "PATTERN_NAME") (written write "LED_PIN")
          (written write "NUM_LEDS") (written write "BRIGHTNESS") (written write "LED_TYPE")
          (written write "COLOR_ORDER") (written write "ROUTINE") (written write "FRAME_DELAY") ++
        rear (spelled write) (written write "PATTERN_BODY") (written write "HELPERS")) := by
    simp only [spelled, sketchTemplate_lines, map_intercalate, front, rear, List.map_append,
      List.map_cons, List.map_nil, written]
  rw [hlines, Template.fill_intercalate h hbreak (by simp [rear])]
  simp only [front, rear, List.map_append, List.map_cons, List.map_nil]
  rw [hslot "// LED Generator sketch: " " pattern" (by decide) (by decide) (by decide),
    hend "#define LED_PIN     " (by decide) (by decide),
    hend "#define NUM_LEDS    " (by decide) (by decide),
    hend "#define BRIGHTNESS  " (by decide) (by decide),
    hend "#define LED_TYPE    " (by decide) (by decide),
    hend "#define COLOR_ORDER " (by decide) (by decide),
    hslot "  " "();" (by decide) (by decide) (by decide),
    hslot "  delay(" ");" (by decide) (by decide) (by decide),
    hslot "void " "() \x7b" (by decide) (by decide) (by decide),
    hend "  " (by decide) (by decide), halone (by decide)]
  simp (disch := decide) only [hplain]

end

/-- The lines of a sketch, with what is written for the wiring. -/
def rows {β : Type} [Append β] (text : String → β) (pattern : PatternRef) (strip : Setup)
    (pin type order : β) : List β :=
  front text (text pattern.sketchName) pin (text (toString strip.ledCount))
      (text (toString strip.brightness)) type order (text pattern.routineName)
      (text (toString strip.frameDelay)) ++
    rear text (text pattern.snippet) (text Snippet.helpers)

section

variable {α : Type} (write : Char → α) (pattern : PatternRef) (strip : Setup)
  (pin type order : List α)

/-- What takes the place of each token, in the way that it is written. -/
def slotValues : List (String × List α) :=
  [("PATTERN_NAME", spelled write pattern.sketchName),
   ("LED_PIN", pin),
   ("NUM_LEDS", spelled write (toString strip.ledCount)),
   ("BRIGHTNESS", spelled write (toString strip.brightness)),
   ("LED_TYPE", type),
   ("COLOR_ORDER", order),
   ("ROUTINE", spelled write pattern.routineName),
   ("FRAME_DELAY", spelled write (toString strip.frameDelay)),
   ("PATTERN_BODY", spelled write pattern.snippet),
   ("HELPERS", spelled write Snippet.helpers)]

theorem slotValues_named : ∀ entry ∈ slotValues write pattern strip pin type order,
    IsName entry.1 := by
  have hall : ∀ name ∈ slotNames, IsName name := by decide
  exact fun entry hentry => hall _ (List.mem_map_of_mem (f := Prod.fst) hentry)

/-- The text of the template with all tokens replaced. -/
def sketchText [BEq α] : List α :=
  fill write (slotValues write pattern strip pin type order) (spelled write sketchTemplate)

/-- **The lines of a sketch for any wiring**: what is written for the wiring need not be what was
given, and the other lines do not depend on it. -/
theorem sketchText_rows [BEq α] [LawfulBEq α] (hwrite : ∀ x y, write x = write y → x = y) :
    let values := slotValues write pattern strip pin type order
    sketchText write pattern strip pin type order = [write '\n'].intercalate
      (rows (spelled write) pattern strip (emitted write "LED_PIN" values)
        (emitted write "LED_TYPE" values) (emitted write "COLOR_ORDER" values)) := by
  intro values
  have hfree {s : String} (hs : '@' ∉ s.toList) (rest : List (String × List α)) :
      fill write rest (spelled write s) = spelled write s :=
    Template.fill_free (Template.sign_not_mem_map hwrite hs)
  have hname : emitted write "PATTERN_NAME" values = spelled write pattern.sketchName :=
    hfree pattern.sign_not_mem_sketchName _
  have hcount : emitted write "NUM_LEDS" values = spelled write (toString strip.ledCount) :=
    hfree (sign_not_mem_toString _) _
  have hlevel : emitted write "BRIGHTNESS" values = spelled write (toString strip.brightness) :=
    hfree (sign_not_mem_toString _) _
  have hroutine : emitted write "ROUTINE" values = spelled write pattern.routineName :=
    hfree pattern.sign_not_mem_routineName _
  have hdelay : emitted write "FRAME_DELAY" values = spelled write (toString strip.frameDelay) :=
    hfree (sign_not_mem_toString _) _
  have hsnippet : emitted write "PATTERN_BODY" values = spelled write pattern.snippet :=
    hfree pattern.sign_not_mem_snippet _
  have hhelpers : emitted write "HELPERS" values = spelled write Snippet.helpers :=
    hfree (by decide) _
  rw [sketchText, fill_sketch hwrite (slotValues_named write pattern strip pin type order), hname,
    hcount, hlevel, hroutine, hdelay, hsnippet, hhelpers]
  rfl

end

/-- The template with the tokens replaced by texts. -/
theorem render_tokenValues (pattern : PatternRef) (strip : Setup) (pin type order : String) :
    render sketchTemplate.toList (tokenValues pattern strip pin type order) =
      sketchText id pattern strip pin.toList type.toList order.toList := by
  simp only [render, tokenValues, sketchText, fill, slotValues, written, spelled_id, List.map_cons,
    List.map_nil, List.map_id]

theorem intercalate_append {α : Type} (sep : List α) {above below : List (List α)}
    (habove : above ≠ []) (hbelow : below ≠ []) : sep.intercalate (above ++ below) =
      sep.intercalate above ++ sep ++ sep.intercalate below := by
  induction above with
  | nil => exact absurd rfl habove
  | cons line rest ih =>
    cases rest with
    | nil =>
      rw [List.singleton_append, List.intercalate_cons_of_ne_nil hbelow, List.intercalate_singleton]
    | cons next rest =>
      have hrest : next :: rest ≠ [] := List.cons_ne_nil next rest
      rw [List.cons_append, List.intercalate_cons_of_ne_nil (List.append_ne_nil_of_left_ne_nil hrest _),
        ih hrest, List.intercalate_cons_of_ne_nil hrest]
      simp only [List.append_assoc]

/-- Lines in the middle may be taken as one. -/
theorem intercalate_gather {α : Type} (sep : List α) {lines : List (List α)} {i j : Nat}
    (hi : 0 < i) (hj : 0 < j) (hlength : i + j < lines.length) :
    sep.intercalate lines = sep.intercalate
      (lines.take i ++ sep.intercalate ((lines.drop i).take j) :: lines.drop (i + j)) := by
  have hsplit : lines.take i ++ ((lines.drop i).take j ++ lines.drop (i + j)) = lines := by
    rw [← List.drop_drop, List.take_append_drop, List.take_append_drop]
  have habove : lines.take i ≠ [] := List.ne_nil_of_length_pos (by rw [List.length_take]; omega)
  have hmiddle : (lines.drop i).take j ≠ [] :=
    List.ne_nil_of_length_pos (by rw [List.length_take, List.length_drop]; omega)
  have hbelow : lines.drop (i + j) ≠ [] :=
    List.ne_nil_of_length_pos (by rw [List.length_drop]; omega)
  calc sep.intercalate lines
      = sep.intercalate (lines.take i) ++ sep ++
        (sep.intercalate ((lines.drop i).take j) ++ sep ++
          sep.intercalate (lines.drop (i + j))) := by
        rw [← intercalate_append sep hmiddle hbelow, ← intercalate_append sep habove
          (List.append_ne_nil_of_left_ne_nil hmiddle _), hsplit]
    _ = _ := by
        rw [intercalate_append sep habove (List.cons_ne_nil _ _),
          List.intercalate_cons_of_ne_nil hbelow]

/-- So may those of a text. -/
theorem lines_gather {lines : List String} {i j : Nat} (hi : 0 < i) (hj : 0 < j)
    (hlength : i + j < lines.length) : "\n".intercalate lines = "\n".intercalate
      (lines.take i ++ "\n".intercalate ((lines.drop i).take j) :: lines.drop (i + j)) := by
  rw [← String.toList_inj]
  simp only [String.toList_intercalate, List.map_append, List.map_cons, List.map_take,
    List.map_drop]
  exact intercalate_gather _ hi hj (by rwa [List.length_map])

/-- What a sketch has for a name, given the texts of the wiring. -/
def slot (pattern : PatternRef) (strip : Setup) (pin type order : String) (name : String) : String :=
  .ofList (emitted id name (slotValues id pattern strip pin.toList type.toList order.toList))

theorem rows_toList (pattern : PatternRef) (strip : Setup) (pin type order : String) :
    (rows id pattern strip pin type order).map String.toList =
      rows (spelled id) pattern strip pin.toList type.toList order.toList := by
  simp only [rows, front, rear, id_eq, List.map_append, List.map_cons, List.map_nil,
    String.toList_append, spelled_id]

/-- **The lines of a sketch that is written.** -/
theorem render_rows (pattern : PatternRef) (strip : Setup) (pin type order : String) :
    render sketchTemplate.toList (tokenValues pattern strip pin type order) =
      ("\n".intercalate (rows id pattern strip (slot pattern strip pin type order "LED_PIN")
        (slot pattern strip pin type order "LED_TYPE")
        (slot pattern strip pin type order "COLOR_ORDER"))).toList := by
  have hbreak : "\n".toList = ['\n'] := rfl
  rw [render_tokenValues, sketchText_rows id pattern strip _ _ _ fun _ _ h => h,
    String.toList_intercalate, rows_toList, hbreak]
  simp only [slot, String.toList_ofList, id_eq]

/-- The first line of a sketch. -/
def header (name : String) : String := "// LED Generator sketch: " ++ name ++ " pattern"

/-- The lines below those of the wiring and of what is done once: the loop, and the routine that it
calls. -/
def below (routine delay snippet helpers : String) : List String :=
  ["void loop() \x7b",
   "  " ++ routine ++ "();",
   "  FastLED.show();",
   "  delay(" ++ delay ++ ");",
   "\x7d",
   "",
   "void " ++ routine ++ "() \x7b",
   "  static uint32_t frame = 0;",
   "  frame++;",
   "",
   "  " ++ snippet,
   "\x7d",
   "",
   helpers,
   ""]

/-- **All of a sketch but the lines of the wiring**, for any wiring. -/
theorem generate_around {pattern : PatternRef} {count level speed : Value} {wiring : Wiring}
    {code : String} {log : Log} (h : generate pattern count level speed wiring = .ok (code, log)) :
    ∃ strip between, Setup.clamped count level speed = .ok strip ∧ code = "\n".intercalate
      (header pattern.sketchName :: "#include <FastLED.h>" :: between ::
        below pattern.routineName (toString strip.frameDelay) pattern.snippet Snippet.helpers) := by
  obtain ⟨strip, pin, type, order, hstrip, -, -, -, hcode, -⟩ := generate_eq_ok h
  rw [render_rows, String.toList_inj] at hcode
  rw [lines_gather (i := 2) (j := 14) (by decide) (by decide) (by simp [rows, front, rear])] at hcode
  exact ⟨strip, _, hstrip, hcode⟩

/-- The first two lines of such a text. -/
theorem take_lines {pattern : PatternRef} {code : String} {rest : List String}
    (h : code = "\n".intercalate
      (header pattern.sketchName :: "#include <FastLED.h>" :: rest)) :
    (Text.lines code).take 2 = [header pattern.sketchName, "#include <FastLED.h>"] := by
  have hheader : '\n' ∉ (header pattern.sketchName).toList := by
    unfold header
    simp only [String.toList_append, List.mem_append, not_or]
    exact ⟨⟨by decide, newline_not_mem_sketchName pattern⟩, by decide⟩
  have hinclude : '\n' ∉ "#include <FastLED.h>".toList := by decide
  have hbreak : "\n".toList = ['\n'] := rfl
  rw [h, Text.lines, String.toList_intercalate, List.map_cons, List.map_cons, hbreak,
    Text.splitOn_intercalate_lines (List.cons_ne_nil _ _), List.flatMap_cons, List.flatMap_cons,
    List.splitOn_eq_singleton hheader, List.splitOn_eq_singleton hinclude]
  simp only [List.cons_append, List.nil_append, List.map_cons, String.ofList_toList,
    List.take_succ_cons, List.take_zero]

end Sketch
end LedStudio
