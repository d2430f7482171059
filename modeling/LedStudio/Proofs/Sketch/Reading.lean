import LedStudio.Proofs.Sketch.Slots
import Mathlib.Data.List.TakeWhile

/-!
# Templates read once

A template is read from left to right, once, into characters and slots. Filling its slots takes no
account of what the values hold, so it says what a template means; replacing its tokens one after the
other comes to the same.

* `fillIn_template` — token after token, and all slots at once.
* `check_ok` — a text without two signs side by side holds no token.
-/

namespace LedStudio
namespace Template

/-- The pieces of a template from left to right, after `skip` characters. -/
def marksFrom : (skip : Nat) → List Char → List (Mark Char)
  | _, [] => []
  | skip + 1, _ :: rest => marksFrom skip rest
  | 0, c :: rest =>
    match leadingToken? (c :: rest) with
    | some found =>
      .slot (.ofList ((found.drop 2).take (found.length - 4))) :: marksFrom (found.length - 1) rest
    | none => .plain c :: marksFrom 0 rest

/-- The pieces of a template. -/
def marks (template : List Char) : List (Mark Char) := marksFrom 0 template

variable {α : Type}

/-- A template with a text in each slot, all put in at once. A character may be written as something
else, such as its code point. -/
def fillSlots (write : Char → α) (value : String → List α) (template : List Char) : List α :=
  (marks template).flatMap fun
    | .plain c => [write c]
    | .slot name => value name

/-! ## The pieces of a template -/

/-- A token that a text begins with has a name. -/
theorem leadingToken?_some {s found : List Char} (h : leadingToken? s = some found) :
    ∃ name rest, IsName name ∧ found = token name ∧ s = found ++ rest := by
  unfold leadingToken? at h
  split at h
  · rename_i rest
    simp only [Option.ite_none_right_eq_some, Bool.and_eq_true, Bool.not_eq_true',
      List.isEmpty_eq_false_iff, List.isPrefixOf_iff_prefix, Option.some.injEq] at h
    obtain ⟨⟨hne, after, hafter⟩, rfl⟩ := h
    refine ⟨.ofList (rest.takeWhile isNameChar), after, ⟨?_, ?_⟩, ?_, ?_⟩
    · rwa [String.toList_ofList]
    · rw [String.toList_ofList]
      exact fun c hc => List.mem_takeWhile_imp hc
    · rw [token, String.toList_ofList]
    · have hrest := List.takeWhile_append_dropWhile (p := isNameChar) (l := rest)
      rw [← hafter] at hrest
      simp only [marker, List.cons_append, List.nil_append, List.append_assoc] at hrest ⊢
      rw [hrest]
  · cases h

theorem name_of_token (name : String) :
    String.ofList (((token name).drop 2).take ((token name).length - 4)) = name := by
  have hlength : (token name).length - 4 = name.toList.length := by
    simp only [token, marker, List.length_append, List.length_cons, List.length_nil]
    omega
  have hdrop : (token name).drop 2 = name.toList ++ marker := rfl
  rw [hlength, hdrop, List.take_left' rfl, String.ofList_toList]

/-- A template is the text of its pieces. -/
theorem flatten_marksFrom (write : Char → α) (skip : Nat) (s : List Char) :
    flatten write ((marksFrom skip s).map (Mark.map write)) = (s.drop skip).map write := by
  fun_induction marksFrom skip s with
  | case1 skip => simp [flatten]
  | case2 skip c rest ih => exact ih
  | case3 c rest found hfound ih =>
    obtain ⟨name, after, -, rfl, happend⟩ := leadingToken?_some hfound
    have hafter : rest.drop ((token name).length - 1) = after := by
      have hdrop := congrArg (List.drop (token name).length) happend
      rwa [List.drop_left] at hdrop
    rw [hafter] at ih
    rw [name_of_token, List.drop_zero, happend, List.map_append, ← ih]
    rfl
  | case4 c rest hnone ih => exact congrArg (write c :: ·) ih

theorem named_marksFrom {skip : Nat} {s : List Char} {name : String}
    (h : .slot name ∈ marksFrom skip s) : IsName name := by
  fun_induction marksFrom skip s with
  | case1 skip => cases h
  | case2 skip c rest ih => exact ih h
  | case3 c rest found hfound ih =>
    obtain ⟨other, after, hname, rfl, -⟩ := leadingToken?_some hfound
    rw [name_of_token, List.mem_cons, Mark.slot.injEq] at h
    obtain rfl | hrest := h
    · exact hname
    · exact ih hrest
  | case4 c rest hnone ih =>
    obtain h | hrest := List.mem_cons.mp h
    · cases h
    · exact ih hrest

/-! ## Token after token -/

/-- `Apart` for characters, as a test. -/
def standApart : Mark Char → Mark Char → Bool
  | .plain c, .plain d => !(c == '@' && d == '@')
  | .plain c, .slot _ => c != '@'
  | .slot _, .plain d => d != '@' && !isNameChar d
  | .slot _, .slot _ => false

variable {write : Char → α}

theorem apart_map (hwrite : ∀ x y, write x = write y → x = y) {a b : Mark Char}
    (h : standApart a b = true) : Apart write (a.map write) (b.map write) := by
  cases a with
  | plain c =>
    cases b with
    | plain d =>
      intro hsigns
      have hc := hwrite _ _ hsigns.1
      have hd := hwrite _ _ hsigns.2
      simp [standApart, hc, hd] at h
    | slot n =>
      intro hsign
      simp [standApart, hwrite _ _ hsign] at h
  | slot m =>
    cases b with
    | plain d =>
      simp only [standApart, Bool.and_eq_true, bne_iff_ne, Bool.not_eq_true'] at h
      rintro x (rfl | hx) heq
      · exact h.1 (hwrite _ _ heq)
      · rw [hwrite _ _ heq, hx] at h
        cases h.2
    | slot n => cases h

theorem legible_marks (hwrite : ∀ x y, write x = write y → x = y) {template : List Char}
    (h : (marks template).IsChain fun a b => standApart a b = true) :
    Legible write ((marks template).map (Mark.map write)) where
  apart := (List.isChain_map _).mpr (h.imp fun _ _ => apart_map hwrite)
  named := by
    intro name hname
    obtain ⟨m, hm, heq⟩ := List.mem_map.mp hname
    cases m with
    | plain c => cases heq
    | slot n =>
      cases heq
      exact named_marksFrom hm

/-- **Replacing the tokens of a template one after the other fills its slots all at once**, and the
text has no two signs side by side. -/
theorem fillIn_template [BEq α] [LawfulBEq α] (hwrite : ∀ x y, write x = write y → x = y)
    {template : List Char}
    (h : (marks template).IsChain fun a b => standApart a b = true)
    {values : List (String × List α)}
    (hvalues : ∀ entry ∈ values, IsName entry.1 ∧ Unmarked write entry.2)
    {value : String → List α}
    (hvalue : ∀ name, .slot name ∈ marks template → values.lookup name = some (value name)) :
    fillIn (template.map write) (values.map fun entry => (written write entry.1, entry.2)) =
      fillSlots write value template ∧ Unmarked write (fillSlots write value template) := by
  have hflat : flatten write ((marks template).map (Mark.map write)) = template.map write :=
    flatten_marksFrom write 0 template
  obtain ⟨hfill, hlegible⟩ := fillIn_flatten hwrite
    (fun e he => ⟨(hvalues e he).1, fun _ => (hvalues e he).2⟩) (legible_marks hwrite h)
  have hall : ((marks template).map (Mark.map write)).flatMap (filled values) =
      (fillSlots write value template).map .plain := by
    rw [List.flatMap_map, fillSlots, List.map_flatMap]
    refine List.flatMap_congr fun m hm => ?_
    cases m with
    | plain c => rfl
    | slot name => simp only [Mark.map, filled, hvalue name hm]
  rw [hall, hflat] at hfill
  rw [hall] at hlegible
  exact ⟨hfill.trans (flatten_plain _), unmarked_of_legible hlegible⟩

/-! ## Tokens that are left -/

theorem leadingToken?_eq_none {s : List Char} (h : ¬marker <:+: s) : leadingToken? s = none := by
  cases hfound : leadingToken? s with
  | none => rfl
  | some found =>
    obtain ⟨name, rest, -, rfl, rfl⟩ := leadingToken?_some hfound
    exact absurd ⟨[], name.toList ++ marker ++ rest, by simp [token]⟩ h

theorem tokensFrom_eq_nil {s : List Char} (h : ¬marker <:+: s) : tokensFrom 0 s = [] := by
  induction s with
  | nil => rfl
  | cons c rest ih =>
    rw [tokensFrom, leadingToken?_eq_none h]
    exact ih fun hrest => h (hrest.trans (List.suffix_cons c rest).isInfix)

/-- A text without two signs side by side holds no token. -/
theorem check_ok {text : List Char} (h : ¬marker <:+: text) : check text = .ok () := by
  simp only [check, leftover, tokensFrom_eq_nil h, List.foldl_nil]

end Template
end LedStudio
