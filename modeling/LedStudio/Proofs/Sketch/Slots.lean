import LedStudio.Sketch.Template
import Mathlib.Data.List.Chain

/-!
# Slots

A template is a row of characters that stand for themselves and of slots that have a name. Its text
has a token for each slot. Replacing token after token in the text is filling the slots all at once,
if no value holds two signs side by side: no signs then come together but those of the tokens that
were there at first, so a token is found where a slot is and nowhere else.

* `replaceAll_flatten` — one token in the text, and the slots of one name.
* `fillIn_flatten` — token after token, and all slots at once.
-/

namespace LedStudio
namespace Text

variable {α : Type} [BEq α] [LawfulBEq α] {old new : List α}

omit [LawfulBEq α] in
theorem replaceFrom_skip (skip : Nat) (text : List α) :
    replaceFrom old new skip text = replaceAll old new (text.drop skip) := by
  induction skip generalizing text with
  | zero => rfl
  | succ skip ih =>
    cases text with
    | nil => rfl
    | cons c cs => exact ih cs

theorem replaceAll_pass {c : α} {cs : List α} (h : ¬old <+: c :: cs) :
    replaceAll old new (c :: cs) = c :: replaceAll old new cs := by
  rw [← List.isPrefixOf_iff_prefix, Bool.not_eq_true] at h
  simp only [replaceAll, replaceFrom, h, Bool.false_eq_true, if_false]

theorem replaceAll_hit (hold : old ≠ []) (rest : List α) :
    replaceAll old new (old ++ rest) = new ++ replaceAll old new rest := by
  obtain ⟨c, cs, rfl⟩ := List.exists_cons_of_ne_nil hold
  have hprefix : (c :: cs).isPrefixOf (c :: (cs ++ rest)) = true :=
    List.isPrefixOf_iff_prefix.mpr (List.prefix_append (c :: cs) rest)
  simp only [replaceAll, List.cons_append, replaceFrom, hprefix, if_true, List.length_cons,
    Nat.add_sub_cancel]
  rw [replaceFrom_skip, List.drop_left]
  rfl

end Text

/-- A piece of a template: what stands for itself, or a slot. -/
inductive Mark (α : Type) where
  | plain (c : α)
  | slot (name : String)
  deriving DecidableEq, Repr

/-- A piece in which characters are written as something else. -/
def Mark.map {α β : Type} (write : α → β) : Mark α → Mark β
  | .plain c => .plain (write c)
  | .slot name => .slot name

namespace Template

variable {α : Type}

/-! ## The text of pieces -/

section
variable (write : Char → α)

/-- A name that a token may have. -/
structure IsName (name : String) : Prop where
  nonempty : name.toList ≠ []
  chars : ∀ c ∈ name.toList, isNameChar c = true

instance (name : String) : Decidable (IsName name) :=
  decidable_of_iff (name.toList ≠ [] ∧ name.toList.all isNameChar = true)
    ⟨fun h => ⟨h.1, List.all_eq_true.mp h.2⟩, fun h => ⟨h.1, List.all_eq_true.mpr h.2⟩⟩

/-- A token as it is written. -/
def written (name : String) : List α := (token name).map write

/-- The text of a piece. -/
def markText : Mark α → List α
  | .plain c => [c]
  | .slot name => written write name

/-- The text of pieces. -/
def flatten (ms : List (Mark α)) : List α := ms.flatMap (markText write)

/-- What may stand after a token: no sign, and nothing that a name could go on with. -/
def Outside (c : α) : Prop := ∀ x, x = '@' ∨ isNameChar x = true → c ≠ write x

/-- Two pieces that may stand side by side, so that no token begins or ends across them. -/
def Apart : Mark α → Mark α → Prop
  | .plain c, .plain d => ¬(c = write '@' ∧ d = write '@')
  | .plain c, .slot _ => c ≠ write '@'
  | .slot _, .plain d => Outside write d
  | .slot _, .slot _ => False

/-- Pieces that can be told from their text: all tokens in it are those of the slots. -/
structure Legible (ms : List (Mark α)) : Prop where
  apart : ms.IsChain (Apart write)
  named : ∀ name, .slot name ∈ ms → IsName name

/-- A text without two signs side by side. -/
def Unmarked (text : List α) : Prop := ¬marker.map write <:+: text

end

variable {write : Char → α}

theorem isName_ne_sign {x : Char} (hx : isNameChar x = true) : x ≠ '@' := by
  rintro rfl
  cases hx

theorem flatten_plain (text : List α) : flatten write (text.map .plain) = text := by
  simp [flatten, List.flatMap_map, markText]

theorem Legible.tail {m : Mark α} {ms : List (Mark α)} (h : Legible write (m :: ms)) :
    Legible write ms :=
  ⟨h.apart.tail, fun name hname => h.named name (List.mem_cons_of_mem m hname)⟩

theorem isChain_of_unmarked {text : List α} (h : Unmarked write text) :
    text.IsChain fun c d => ¬(c = write '@' ∧ d = write '@') := by
  rw [List.isChain_iff_forall_rel_of_append_cons_cons]
  rintro c d front back rfl ⟨rfl, rfl⟩
  exact h ⟨front, back, by simp [marker]⟩

/-- Pieces that are no slots have no two signs side by side. -/
theorem unmarked_of_legible {text : List α} (h : Legible write (text.map .plain)) :
    Unmarked write text := by
  rintro ⟨front, back, rfl⟩
  have happart := (List.isChain_map _).mp h.apart
  rw [List.isChain_iff_forall_rel_of_append_cons_cons] at happart
  have hsigns : front ++ marker.map write ++ back = front ++ write '@' :: write '@' :: back := by
    simp [marker]
  exact happart hsigns ⟨rfl, rfl⟩

theorem unmarked_of_not_mem {text : List α} (h : write '@' ∉ text) : Unmarked write text :=
  fun hmarker => h (hmarker.subset (by simp [marker]))

/-! ## One token -/

section
variable {name : String}

theorem written_eq (write : Char → α) (name : String) :
    written write name =
      write '@' :: write '@' :: (name.toList.map write ++ [write '@', write '@']) := by
  simp [written, token, marker]

/-- A token begins with two signs and a character of a name. -/
theorem written_prefix_head (hname : IsName name) {text : List α}
    (h : written write name <+: text) :
    ∃ x rest, isNameChar x = true ∧ text = write '@' :: write '@' :: write x :: rest := by
  obtain ⟨x, xs, hcons⟩ := List.exists_cons_of_ne_nil hname.nonempty
  obtain ⟨rest, rfl⟩ := h
  refine ⟨x, xs.map write ++ [write '@', write '@'] ++ rest, hname.chars x ?_, ?_⟩
  · rw [hcons]
    exact List.mem_cons_self
  · rw [written_eq, hcons]
    simp

/-- Two rows without a sign that are closed by one are the same if one closed row begins the other. -/
theorem eq_of_prefix_closed (hwrite : ∀ x y, write x = write y → x = y)
    {xs ys : List Char} (hxs : '@' ∉ xs) (hys : '@' ∉ ys) {a b : List α}
    (h : xs.map write ++ write '@' :: a <+: ys.map write ++ write '@' :: b) : xs = ys := by
  induction xs generalizing ys with
  | nil =>
    cases ys with
    | nil => rfl
    | cons y ys =>
      have hy := hwrite '@' y (List.cons_prefix_cons.mp h).1
      exact absurd hy (List.ne_of_not_mem_cons hys)
  | cons x xs ih =>
    cases ys with
    | nil =>
      have hx := hwrite x '@' (List.cons_prefix_cons.mp h).1
      exact absurd hx.symm (List.ne_of_not_mem_cons hxs)
    | cons y ys =>
      obtain ⟨hhead, htail⟩ := List.cons_prefix_cons.mp h
      rw [hwrite x y hhead, ih (List.not_mem_of_not_mem_cons hxs)
        (List.not_mem_of_not_mem_cons hys) htail]

theorem outside_of_legible {ms : List (Mark α)} (h : Legible write (.slot name :: ms)) :
    ∀ c ∈ (flatten write ms).head?, Outside write c := by
  cases ms with
  | nil => nofun
  | cons m ms =>
    cases m with
    | plain d =>
      rintro c ⟨⟩
      exact (List.isChain_cons_cons.mp h.apart).1
    | slot other => exact (List.isChain_cons_cons.mp h.apart).1.elim

theorem head_of_legible {ms : List (Mark α)} (h : Legible write (.plain (write '@') :: ms)) :
    (flatten write ms).head? ≠ some (write '@') := by
  cases ms with
  | nil => nofun
  | cons m ms =>
    have hnext := (List.isChain_cons_cons.mp h.apart).1
    cases m with
    | plain d => exact fun hhead => hnext ⟨rfl, Option.some.inj hhead⟩
    | slot other => exact (hnext rfl).elim

variable [BEq α] [LawfulBEq α] {v : List α}

theorem replaceAll_plain (hname : IsName name) {c : α} (hc : c ≠ write '@') (rest : List α) :
    Text.replaceAll (written write name) v (c :: rest) =
      c :: Text.replaceAll (written write name) v rest := by
  refine Text.replaceAll_pass fun h => ?_
  obtain ⟨x, tail, -, heq⟩ := written_prefix_head hname h
  exact hc (List.cons.inj heq).1

theorem replaceAll_sign (hname : IsName name) {rest : List α}
    (hrest : rest.head? ≠ some (write '@')) :
    Text.replaceAll (written write name) v (write '@' :: rest) =
      write '@' :: Text.replaceAll (written write name) v rest := by
  refine Text.replaceAll_pass fun h => ?_
  obtain ⟨x, tail, -, heq⟩ := written_prefix_head hname h
  rw [(List.cons.inj heq).2] at hrest
  exact hrest rfl

/-- The signs at the end of a token are not the beginning of one. -/
theorem replaceAll_closing (hname : IsName name) {rest : List α}
    (hrest : ∀ c ∈ rest.head?, Outside write c) :
    Text.replaceAll (written write name) v (write '@' :: write '@' :: rest) =
      write '@' :: write '@' :: Text.replaceAll (written write name) v rest := by
  rw [Text.replaceAll_pass, replaceAll_sign hname]
  · exact fun hhead => hrest _ hhead '@' (.inl rfl) rfl
  · intro h
    obtain ⟨x, tail, hx, heq⟩ := written_prefix_head hname h
    rw [(List.cons.inj (List.cons.inj heq).2).2] at hrest
    exact hrest _ rfl x (.inr hx) rfl

variable (hwrite : ∀ x y, write x = write y → x = y)
include hwrite

theorem replaceAll_name (hname : IsName name) {chars : List Char}
    (hchars : ∀ x ∈ chars, isNameChar x = true) (rest : List α) :
    Text.replaceAll (written write name) v (chars.map write ++ rest) =
      chars.map write ++ Text.replaceAll (written write name) v rest := by
  induction chars with
  | nil => rfl
  | cons x xs ih =>
    have hx := isName_ne_sign (hchars x List.mem_cons_self)
    rw [List.map_cons, List.cons_append, List.cons_append,
      replaceAll_plain hname (fun h => hx (hwrite x '@' h)),
      ih fun y hy => hchars y (List.mem_cons_of_mem x hy)]

theorem replaceAll_other {other : String} (hname : IsName name) (hother : IsName other)
    (hne : other ≠ name) {rest : List α} (hrest : ∀ c ∈ rest.head?, Outside write c) :
    Text.replaceAll (written write name) v (written write other ++ rest) =
      written write other ++ Text.replaceAll (written write name) v rest := by
  have hsigns : ∀ {s : String}, IsName s → '@' ∉ s.toList :=
    fun hs hmem => isName_ne_sign (hs.chars _ hmem) rfl
  obtain ⟨x, xs, hcons⟩ := List.exists_cons_of_ne_nil hother.nonempty
  have hx : write x ≠ write '@' := fun h =>
    isName_ne_sign (hother.chars x (hcons ▸ List.mem_cons_self)) (hwrite x '@' h)
  rw [written_eq write other]
  simp only [List.cons_append, List.append_assoc, List.nil_append]
  rw [Text.replaceAll_pass, replaceAll_sign hname, replaceAll_name hwrite hname hother.chars,
    replaceAll_closing hname hrest]
  · rw [hcons]
    simpa using hx
  · intro h
    rw [written_eq] at h
    have hclosed := (List.cons_prefix_cons.mp (List.cons_prefix_cons.mp h).2).2
    exact hne (String.toList_inj.mp
      (eq_of_prefix_closed hwrite (hsigns hname) (hsigns hother) hclosed)).symm

/-! ## One name in all pieces -/

/-- A piece once a text has taken the place of one name. -/
def put (name : String) (v : List α) : Mark α → List (Mark α)
  | .plain c => [.plain c]
  | .slot other => if other = name then v.map .plain else [.slot other]

/-- Replacing a token in the text replaces the slots of its name, and nothing else. -/
theorem replaceAll_flatten (hname : IsName name) {ms : List (Mark α)} (h : Legible write ms) :
    Text.replaceAll (written write name) v (flatten write ms) =
      flatten write (ms.flatMap (put name v)) := by
  induction ms with
  | nil => rfl
  | cons m ms ih =>
    have hrest := ih h.tail
    simp only [flatten, List.flatMap_append, List.flatMap_cons] at hrest ⊢
    cases m with
    | plain c =>
      by_cases hc : c = write '@'
      · subst hc
        exact (replaceAll_sign hname (head_of_legible h)).trans (congrArg (write '@' :: ·) hrest)
      · exact (replaceAll_plain hname hc _).trans (congrArg (c :: ·) hrest)
    | slot other =>
      have houtside := outside_of_legible h
      by_cases heq : other = name
      · subst heq
        have htext : (v.map Mark.plain).flatMap (markText write) = v := flatten_plain v
        simp only [put, if_true, htext, markText, ← hrest]
        exact Text.replaceAll_hit (by simp [written_eq]) _
      · simp only [put, if_neg heq, List.flatMap_cons, List.flatMap_nil, List.append_nil, markText,
          ← hrest]
        exact replaceAll_other hwrite hname (h.named other List.mem_cons_self) heq houtside

end

/-! ## Pieces stay apart -/

section
variable {name : String} {v : List α}

theorem isChain_plain {c : α} (hv : (c :: v).IsChain fun c d => ¬(c = write '@' ∧ d = write '@'))
    {ms : List (Mark α)} (hms : ∀ d, (Mark.plain d :: ms).IsChain (Apart write)) :
    (.plain c :: (v.map .plain ++ ms)).IsChain (Apart write) := by
  induction v generalizing c with
  | nil => exact hms c
  | cons d v ih =>
    obtain ⟨hapart, hrest⟩ := List.isChain_cons_cons.mp hv
    exact .cons_cons hapart (ih hrest)

/-- Where a slot may stand, so may any character, as far as what follows goes. -/
theorem isChain_of_slot {ms : List (Mark α)} (h : (Mark.slot name :: ms).IsChain (Apart write))
    (c : α) : (Mark.plain c :: ms).IsChain (Apart write) := by
  cases h with
  | singleton => exact .singleton _
  | @cons_cons _ m _ hnext hrest =>
    refine .cons_cons ?_ hrest
    cases m with
    | plain d => exact fun hsigns => hnext '@' (.inl rfl) hsigns.2
    | slot other => exact hnext.elim

theorem isChain_put (hv : Unmarked write v) {p : Mark α} (hp : p ≠ .slot name) {ms : List (Mark α)}
    (h : (p :: ms).IsChain (Apart write)) :
    (p :: ms.flatMap (put name v)).IsChain (Apart write) := by
  induction ms generalizing p with
  | nil => exact h
  | cons m ms ih =>
    obtain ⟨hnext, hrest⟩ := List.isChain_cons_cons.mp h
    rw [List.flatMap_cons]
    cases m with
    | plain c => exact .cons_cons hnext (ih nofun hrest)
    | slot other =>
      by_cases heq : other = name
      · subst heq
        simp only [put, if_true]
        cases p with
        | slot s => exact hnext.elim
        | plain c =>
          refine isChain_plain ?_ fun d => ih nofun (isChain_of_slot hrest d)
          refine (isChain_of_unmarked hv).cons fun d _ hsigns => ?_
          exact hnext hsigns.1
      · simp only [put, if_neg heq]
        exact .cons_cons hnext (ih (fun hs => heq (Mark.slot.inj hs)) hrest)

theorem mem_put {n : String} {m : Mark α} (h : .slot n ∈ put name v m) : m = .slot n := by
  cases m with
  | plain c => simp [put] at h
  | slot other =>
    by_cases heq : other = name
    · simp [put, heq] at h
    · simpa [put, heq, eq_comm] using h

/-- A text without two signs side by side leaves pieces that can be told from their text. -/
theorem Legible.put (hwrite : ∀ x y, write x = write y → x = y) (hv : Unmarked write v)
    {ms : List (Mark α)} (h : Legible write ms) : Legible write (ms.flatMap (put name v)) where
  apart := by
    -- A blank in front of the pieces takes no part in any token.
    have hblank : (Mark.plain (write ' ') :: ms).IsChain (Apart write) := by
      refine h.apart.cons fun m _ => ?_
      have hne : write ' ' ≠ write '@' := fun heq => absurd (hwrite _ _ heq) (by decide)
      cases m with
      | plain c => exact fun hsigns => hne hsigns.1
      | slot other => exact hne
    have hput : (Mark.plain (write ' ') :: ms.flatMap (Template.put name v)).IsChain (Apart write) := by
      refine isChain_put hv ?_ hblank
      nofun
    exact hput.tail
  named := by
    intro n hn
    obtain ⟨m, hm, hslot⟩ := List.mem_flatMap.mp hn
    exact h.named n (mem_put hslot ▸ hm)

end

/-! ## All names -/

/-- A piece once texts have taken the place of all names that have one. -/
def filled (values : List (String × List α)) : Mark α → List (Mark α)
  | .plain c => [.plain c]
  | .slot name =>
    match values.lookup name with
    | some v => v.map .plain
    | none => [.slot name]

theorem filled_cons (name : String) (v : List α) (values : List (String × List α)) (m : Mark α) :
    (put name v m).flatMap (filled values) = filled ((name, v) :: values) m := by
  cases m with
  | plain c => rfl
  | slot other =>
    by_cases heq : other = name
    · have hplain : (v.map Mark.plain).flatMap (filled values) = v.map .plain := by
        simp only [List.flatMap_map, filled]
        exact List.map_eq_flatMap.symm
      simp only [put, heq, if_true, hplain, filled, List.lookup_cons_self]
    · have hbeq : (other == name) = false := beq_false_of_ne heq
      simp [put, filled, heq, List.lookup_cons, hbeq]

theorem lookup_of_mem {values : List (String × List α)} (h : (values.map (·.1)).Nodup)
    {name : String} {v : List α} (hmem : (name, v) ∈ values) : values.lookup name = some v := by
  induction values with
  | nil => cases hmem
  | cons entry values ih =>
    obtain ⟨hfirst, hrest⟩ := List.nodup_cons.mp h
    obtain rfl | htail := List.mem_cons.mp hmem
    · exact List.lookup_cons_self
    · have hne : name ≠ entry.1 := by
        rintro rfl
        exact hfirst (List.mem_map.mpr ⟨_, htail, rfl⟩)
      rw [List.lookup_cons, beq_false_of_ne hne]
      exact ih hrest htail

theorem flatMap_put_of_not_mem {name : String} {ms : List (Mark α)} (h : .slot name ∉ ms)
    (v : List α) : ms.flatMap (put name v) = ms := by
  have hput : ∀ m ∈ ms, put name v m = [m] := by
    intro m hm
    cases m with
    | plain c => rfl
    | slot other =>
      have hne : other ≠ name := by
        rintro rfl
        exact h hm
      simp only [put, if_neg hne]
  rw [List.flatMap_congr hput, List.flatMap_singleton']

/-- **Token after token is all slots at once**, if no value that is put in holds two signs side by
side. What stands for a name without a slot may hold anything. -/
theorem fillIn_flatten [BEq α] [LawfulBEq α] (hwrite : ∀ x y, write x = write y → x = y)
    {values : List (String × List α)} {ms : List (Mark α)}
    (hvalues : ∀ entry ∈ values, IsName entry.1 ∧ (.slot entry.1 ∈ ms → Unmarked write entry.2))
    (h : Legible write ms) :
    fillIn (flatten write ms) (values.map fun entry => (written write entry.1, entry.2)) =
      flatten write (ms.flatMap (filled values)) ∧ Legible write (ms.flatMap (filled values)) := by
  induction values generalizing ms with
  | nil =>
    have hnone : filled ([] : List (String × List α)) = fun m => [m] := by
      funext m
      cases m <;> rfl
    simpa [fillIn, hnone] using h
  | cons entry values ih =>
    obtain ⟨hname, hv⟩ := hvalues entry List.mem_cons_self
    have hput : Legible write (ms.flatMap (put entry.1 entry.2)) := by
      by_cases hslot : .slot entry.1 ∈ ms
      · exact h.put hwrite (hv hslot)
      · rwa [flatMap_put_of_not_mem hslot]
    have hrest : ∀ e ∈ values, IsName e.1 ∧
        (.slot e.1 ∈ ms.flatMap (put entry.1 entry.2) → Unmarked write e.2) := by
      intro e he
      obtain ⟨hn, hmarked⟩ := hvalues e (List.mem_cons_of_mem entry he)
      refine ⟨hn, fun hslot => hmarked ?_⟩
      obtain ⟨m, hm, hmem⟩ := List.mem_flatMap.mp hslot
      exact mem_put hmem ▸ hm
    have hstep := ih hrest hput
    simp only [List.flatMap_assoc, filled_cons] at hstep
    refine ⟨?_, hstep.2⟩
    rw [← hstep.1, ← replaceAll_flatten hwrite hname h]
    rfl

end Template
end LedStudio
