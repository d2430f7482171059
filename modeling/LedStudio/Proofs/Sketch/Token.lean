import Mathlib.Data.String.Basic
import LedStudio.Proofs.Sketch.Listing
import LedStudio.Proofs.Sketch.Plain

/-!
# Tokens that are left

A text is looked through from left to right for tokens, and goes on behind each one that is found. As
no sign is part of a name, at each place there is at most one token, and the first one of a text is
never passed over; so a text without a finding holds no token at all.

* `leadingToken?_eq_some_iff` — the token at the beginning of a text.
* `tokensFrom_eq_nil_iff` — nothing is found just where nothing is.
* `token_check_exact` — the check refuses just the texts that hold a token, and no sketch holds one.
-/

namespace LedStudio
namespace Template

/-- A token: between two pairs of signs a name, which is one or more capital letters, digits and
underscores. -/
def IsToken (t : List Char) : Prop :=
  ∃ name : List Char, name ≠ [] ∧
    (∀ c ∈ name, 'A' ≤ c ∧ c ≤ 'Z' ∨ '0' ≤ c ∧ c ≤ '9' ∨ c = '_') ∧
    t = '@' :: '@' :: (name ++ ['@', '@'])

/-- A token stands somewhere in the text. -/
def HoldsToken (text : List Char) : Prop := ∃ t, IsToken t ∧ t <:+: text

theorem isNameChar_iff {c : Char} :
    isNameChar c = true ↔ 'A' ≤ c ∧ c ≤ 'Z' ∨ '0' ≤ c ∧ c ≤ '9' ∨ c = '_' := by
  simp only [isNameChar, Bool.or_eq_true, Text.isDigit_iff, Text.isUpper_iff, decide_eq_true_eq]
  tauto

theorem IsName.isToken {name : String} (h : IsName name) : IsToken (token name) :=
  ⟨name.toList, h.nonempty, fun c hc => isNameChar_iff.mp (h.chars c hc), by simp [token, marker]⟩

theorem IsToken.ne_nil {t : List Char} (h : IsToken t) : t ≠ [] := by
  obtain ⟨name, -, -, rfl⟩ := h
  exact List.cons_ne_nil _ _

/-! ## The token at the beginning of a text -/

/-- A name ends before the signs behind it. -/
theorem takeWhile_name {name : List Char} (h : ∀ c ∈ name, isNameChar c = true)
    (rest : List Char) : (name ++ '@' :: rest).takeWhile isNameChar = name := by
  rw [List.takeWhile_append_of_pos h, List.takeWhile_cons_of_neg (by decide), List.append_nil]

theorem leadingToken?_eq_some_iff {s t : List Char} :
    leadingToken? s = some t ↔ IsToken t ∧ t <+: s := by
  constructor
  · intro h
    obtain ⟨name, rest, hname, rfl, rfl⟩ := leadingToken?_some h
    exact ⟨hname.isToken, List.prefix_append _ _⟩
  · rintro ⟨⟨name, hne, hchars, rfl⟩, rest, rfl⟩
    have hname : ∀ c ∈ name, isNameChar c = true := fun c hc => isNameChar_iff.mpr (hchars c hc)
    have htake := takeWhile_name hname ('@' :: rest)
    have hdrop : (name ++ '@' :: '@' :: rest).dropWhile isNameChar = '@' :: '@' :: rest := by
      have happend := List.takeWhile_append_dropWhile (p := isNameChar)
        (l := name ++ '@' :: '@' :: rest)
      rw [htake] at happend
      exact List.append_cancel_left happend
    have hempty : name.isEmpty = false := by
      rwa [List.isEmpty_eq_false_iff]
    simp only [List.cons_append, List.append_assoc, List.nil_append, leadingToken?, htake, hdrop,
      hempty, Bool.not_false, marker]
    rfl

/-! ## Looking through a text -/

theorem mem_tokensFrom {skip : Nat} {s t : List Char} (h : t ∈ tokensFrom skip s) :
    IsToken t ∧ t <:+: s := by
  fun_induction tokensFrom skip s with
  | case1 skip => cases h
  | case2 skip c rest ih =>
    obtain ⟨htoken, hinfix⟩ := ih h
    exact ⟨htoken, hinfix.trans (List.suffix_cons c rest).isInfix⟩
  | case3 c rest found hfound ih =>
    obtain rfl | hlater := List.mem_cons.mp h
    · obtain ⟨htoken, hprefix⟩ := leadingToken?_eq_some_iff.mp hfound
      exact ⟨htoken, hprefix.isInfix⟩
    · obtain ⟨htoken, hinfix⟩ := ih hlater
      exact ⟨htoken, hinfix.trans (List.suffix_cons c rest).isInfix⟩
  | case4 c rest hnone ih =>
    obtain ⟨htoken, hinfix⟩ := ih h
    exact ⟨htoken, hinfix.trans (List.suffix_cons c rest).isInfix⟩

/-- **The first token of a text is never passed over.** -/
theorem tokensFrom_ne_nil {s : List Char} (h : HoldsToken s) : tokensFrom 0 s ≠ [] := by
  obtain ⟨t, htoken, hinfix⟩ := h
  induction s with
  | nil => exact absurd (List.infix_nil.mp hinfix) htoken.ne_nil
  | cons c rest ih =>
    rw [tokensFrom]
    split
    · exact List.cons_ne_nil _ _
    · next hnone =>
      refine ih ((List.infix_cons_iff.mp hinfix).resolve_left fun hprefix => ?_)
      rw [leadingToken?_eq_some_iff.mpr ⟨htoken, hprefix⟩] at hnone
      cases hnone

theorem tokensFrom_eq_nil_iff {s : List Char} : tokensFrom 0 s = [] ↔ ¬HoldsToken s := by
  refine ⟨fun hnil h => tokensFrom_ne_nil h hnil, fun h => ?_⟩
  rw [List.eq_nil_iff_forall_not_mem]
  exact fun t ht => h ⟨t, mem_tokensFrom ht⟩

/-! ## What is reported -/

theorem mem_insertSorted {s t : String} {sorted : List String} :
    t ∈ insertSorted s sorted ↔ t = s ∨ t ∈ sorted := by
  induction sorted with
  | nil => simp only [insertSorted, List.mem_singleton, List.not_mem_nil, or_false]
  | cons first rest ih =>
    unfold insertSorted
    split_ifs with heq hlt
    · subst heq
      simp only [List.mem_cons, or_self_left]
    · simp only [List.mem_cons]
    · simp only [List.mem_cons, ih]
      tauto

theorem sorted_insertSorted {s : String} {sorted : List String}
    (h : sorted.Pairwise (· < ·)) : (insertSorted s sorted).Pairwise (· < ·) := by
  induction sorted with
  | nil => exact List.pairwise_singleton _ _
  | cons first rest ih =>
    obtain ⟨hfirst, hrest⟩ := List.pairwise_cons.mp h
    unfold insertSorted
    split_ifs with heq hlt
    · exact h
    · refine List.pairwise_cons.mpr ⟨fun t ht => ?_, h⟩
      obtain rfl | hlater := List.mem_cons.mp ht
      · exact hlt
      · exact hlt.trans (hfirst t hlater)
    · refine List.pairwise_cons.mpr ⟨fun t ht => ?_, ih hrest⟩
      obtain rfl | hlater := mem_insertSorted.mp ht
      · exact lt_of_le_of_ne (not_lt.mp hlt) (Ne.symm heq)
      · exact hfirst t hlater

/-- Gathering findings keeps the order. -/
theorem gathered (found : List (List Char)) {sorted : List String}
    (h : sorted.Pairwise (· < ·)) :
    let all := found.foldl (fun sorted t => insertSorted (.ofList t) sorted) sorted
    all.Pairwise (· < ·) ∧ ∀ s, s ∈ all ↔ s ∈ sorted ∨ s.toList ∈ found := by
  induction found generalizing sorted with
  | nil => exact ⟨h, fun s => by simp only [List.foldl_nil, List.not_mem_nil, or_false]⟩
  | cons t rest ih =>
    obtain ⟨hsorted, hmem⟩ := ih (sorted_insertSorted (s := .ofList t) h)
    refine ⟨hsorted, fun s => ?_⟩
    have hsame : s = .ofList t ↔ s.toList = t := by
      rw [← String.toList_inj, String.toList_ofList]
    simp only [List.foldl_cons, hmem, mem_insertSorted, List.mem_cons, hsame]
    tauto

theorem sorted_leftover (text : List Char) : (leftover text).Pairwise (· < ·) :=
  (gathered (tokensFrom 0 text) .nil).1

theorem mem_leftover {text : List Char} {s : String} :
    s ∈ leftover text ↔ s.toList ∈ tokensFrom 0 text := by
  have hmem := (gathered (tokensFrom 0 text) .nil).2 s
  rwa [List.mem_nil_iff, false_or] at hmem

theorem leftover_eq_nil_iff {text : List Char} : leftover text = [] ↔ ¬HoldsToken text := by
  rw [← tokensFrom_eq_nil_iff, List.eq_nil_iff_forall_not_mem, List.eq_nil_iff_forall_not_mem]
  constructor
  · intro h t ht
    exact h (.ofList t) (mem_leftover.mpr (by rwa [String.toList_ofList]))
  · intro h s hs
    exact h s.toList (mem_leftover.mp hs)

theorem check_ok_iff {text : List Char} : check text = .ok () ↔ ¬HoldsToken text := by
  rw [← leftover_eq_nil_iff]
  unfold check
  split
  · next hnil => simp only [hnil]
  · next hsome => exact ⟨nofun, fun hnil => absurd hnil hsome⟩

/-- What the check reports. -/
theorem reported {text : List Char} {fault : Fault} (h : check text = .error fault) :
    ∃ tokens, fault = .unresolvedTokens tokens ∧ tokens ≠ [] ∧ tokens.Pairwise (· < ·) ∧
      ∀ s ∈ tokens, IsToken s.toList ∧ s.toList <:+: text := by
  unfold check at h
  split at h
  · cases h
  · next hsome =>
    cases h
    exact ⟨_, rfl, hsome, sorted_leftover text, fun s hs => mem_tokensFrom (mem_leftover.mp hs)⟩

end Template

/-! ## Rows that are written otherwise -/

namespace Text

variable {α β : Type} {write : α → β}

theorem map_prefix_map_iff {old : List α} (hold : ∀ x ∈ old, ∀ y, write y = write x → y = x)
    (text : List α) : old.map write <+: text.map write ↔ old <+: text := by
  refine ⟨fun h => ?_, fun h => h.map write⟩
  induction old generalizing text with
  | nil => exact List.nil_prefix
  | cons x rest ih =>
    cases text with
    | nil => cases List.prefix_nil.mp h
    | cons y text =>
      obtain ⟨hhead, htail⟩ := List.cons_prefix_cons.mp h
      rw [hold x List.mem_cons_self y hhead.symm, List.prefix_cons_inj]
      exact ih (fun z hz => hold z (List.mem_cons_of_mem x hz)) text htail

variable [BEq α] [LawfulBEq α] [BEq β] [LawfulBEq β]

theorem map_replaceFrom {old : List α} (hold : ∀ x ∈ old, ∀ y, write y = write x → y = x)
    (new : List α) (skip : Nat) (text : List α) : (replaceFrom old new skip text).map write =
      replaceFrom (old.map write) (new.map write) skip (text.map write) := by
  have hprefix (c : α) (cs : List α) :
      (old.map write).isPrefixOf (write c :: cs.map write) = old.isPrefixOf (c :: cs) := by
    rw [Bool.eq_iff_iff, List.isPrefixOf_iff_prefix, List.isPrefixOf_iff_prefix]
    exact map_prefix_map_iff hold (c :: cs)
  fun_induction replaceFrom old new skip text with
  | case1 skip => simp only [List.map_nil, replaceFrom]
  | case2 skip c cs ih => exact ih
  | case3 c cs hhit ih =>
    simp only [List.map_append, List.map_cons, replaceFrom, hprefix, hhit, if_true, ih,
      List.length_map]
  | case4 c cs hmiss ih =>
    simp only [List.map_cons, replaceFrom, hprefix, hmiss, if_false, Bool.false_eq_true, ih]

/-- Replacing rows does not depend on how a text is written, if what they are made of can be told
from all else. -/
theorem map_fillIn {values : List (List α × List α)}
    (hold : ∀ entry ∈ values, ∀ x ∈ entry.1, ∀ y, write y = write x → y = x) (text : List α) :
    (Template.fillIn text values).map write = Template.fillIn (text.map write)
      (values.map fun entry => (entry.1.map write, entry.2.map write)) := by
  induction values generalizing text with
  | nil => rfl
  | cons entry values ih =>
    have hhead := map_replaceFrom (hold entry List.mem_cons_self) entry.2 0 text
    have hrest := ih (fun e he => hold e (List.mem_cons_of_mem entry he))
      (replaceAll entry.1 entry.2 text)
    rw [replaceAll, hhead] at hrest
    exact hrest

/-- No other code point is shown as a character than its own, apart from two that stand for what is
none. -/
theorem eq_toNat_of_shown {p : Nat} {c : Char} (h : shown p = c) (hhalf : c ≠ '\ufffd')
    (hnull : c ≠ '\x00') : p = c.toNat := by
  unfold shown at h
  split at h
  · exact absurd h.symm hhalf
  · by_cases hvalid : p.isValidChar
    · rw [← h, Char.ofNat, dif_pos hvalid]
      rfl
    · rw [Char.ofNat, dif_neg hvalid] at h
      exact absurd h.symm hnull

end Text

namespace Template

open Text (shown shownPoints)

/-- No other code point is shown as a character of a token. -/
theorem IsToken.eq_toNat_of_shown {t : List Char} (ht : IsToken t) {c : Char} (hc : c ∈ t) {p : Nat}
    (h : shown p = c) : p = c.toNat := by
  obtain ⟨name, -, hname, rfl⟩ := ht
  have hchar : c = '@' ∨ isNameChar c = true := by
    simp only [List.mem_cons, List.mem_append, List.not_mem_nil, or_false] at hc
    rcases hc with hsign | hsign | hmem | hsign | hsign
    · exact .inl hsign
    · exact .inl hsign
    · exact .inr (isNameChar_iff.mpr (hname c hmem))
    · exact .inl hsign
    · exact .inl hsign
  refine Text.eq_toNat_of_shown h ?_ ?_
  · rintro rfl
    exact absurd hchar (by decide)
  · rintro rfl
    exact absurd hchar (by decide)

/-- Half characters hide no token and make none. -/
theorem holdsToken_shownPoints {points : List Nat} : HoldsToken (shownPoints points).toList ↔
    ∃ t, IsToken t ∧ t.map Char.toNat <:+: points := by
  have hshown : (shownPoints points).toList = points.map shown := String.toList_ofList
  rw [hshown]
  refine exists_congr fun t => and_congr_right fun ht => ⟨fun hinfix => ?_, fun hinfix => ?_⟩
  · obtain ⟨row, hrow, rfl⟩ := List.infix_map_iff.mp hinfix
    have hback : (row.map shown).map Char.toNat = row := by
      have hsame : row.map (Char.toNat ∘ shown) = row.map id := List.map_congr_left fun p hp =>
        (ht.eq_toNat_of_shown (List.mem_map_of_mem hp) rfl).symm
      rw [List.map_map, hsame, List.map_id]
    rwa [hback]
  · have hmap := hinfix.map shown
    rwa [Text.map_shown_toNat] at hmap

end Template

namespace Sketch

open Template (HoldsToken IsName IsToken)

/-- A source with half characters is shown as the text that the check has seen. -/
theorem shown_codePoints {pattern : PatternRef} {strip : Setup} {wiring : Wiring}
    {ledPin ledType colorOrder : String} (hpin : wiring.ledPin.written = .ok ledPin)
    (htype : replacement wiring.ledType = .ok ledType)
    (horder : replacement wiring.colorOrder = .ok colorOrder) :
    (codePoints pattern strip wiring).map Text.shown = Template.render sketchTemplate.toList
      (tokenValues pattern strip ledPin ledType colorOrder) := by
  have hnames : ∀ name ∈ slotNames, IsName name := by decide
  rw [codePoints, display_of_written hpin, Text.map_fillIn, Text.map_shown_toNat, Template.render]
  · simp only [tokenValues, tokenPoints, List.map_cons, List.map_nil, Text.map_shown_toNat,
      String.reduceEq, if_true, if_false, replacement_eq_ok htype, replacement_eq_ok horder]
  · intro entry hentry x hx y hxy
    obtain ⟨⟨name, text⟩, hmem, rfl⟩ := List.mem_map.mp hentry
    obtain ⟨c, hc, rfl⟩ := List.mem_map.mp hx
    have hname : IsName name := hnames name (List.mem_map_of_mem (f := Prod.fst) hmem)
    exact hname.isToken.eq_toNat_of_shown hc (hxy.trans (Text.shown_toNat c))

/-- **The check is exact.** For every text, it refuses the text just if a token stands somewhere in
it, whatever stands around the token; what it reports then is tokens of the text, in order and each
once; and half characters, which it is shown by another character, neither hide a token from it nor
make one. So no sketch that is written holds a token, whatever the pattern, the settings and the
wiring are; nor do the code points of one that half characters keep from being a text. -/
theorem token_check_exact :
    (∀ text : List Char,
      ((∃ fault, Template.check text = .error fault ∧ fault.label = "CodegenError") ↔
        HoldsToken text) ∧
      (Template.check text = .ok () ↔ ¬HoldsToken text) ∧
      ∀ fault, Template.check text = .error fault →
        ∃ tokens, fault = .unresolvedTokens tokens ∧ tokens ≠ [] ∧ tokens.Pairwise (· < ·) ∧
          ∀ s ∈ tokens, IsToken s.toList ∧ s.toList <:+: text) ∧
    (∀ points : List Nat, HoldsToken (Text.shownPoints points).toList ↔
      ∃ t, IsToken t ∧ t.map Char.toNat <:+: points) ∧
    ∀ (pattern : PatternRef) (count level speed : Value) (wiring : Wiring) (code : String)
      (log : Log), generate pattern count level speed wiring = .ok (code, log) →
      ¬HoldsToken code.toList ∧
      ∀ points, brokenPoints? pattern count level speed wiring = some points →
        ¬∃ t, IsToken t ∧ t.map Char.toNat <:+: points := by
  refine ⟨fun text => ⟨?_, Template.check_ok_iff, fun fault h => Template.reported h⟩,
    fun points => Template.holdsToken_shownPoints, ?_⟩
  · constructor
    · rintro ⟨fault, hfault, -⟩
      by_contra hnone
      rw [Template.check_ok_iff.mpr hnone] at hfault
      cases hfault
    · intro hholds
      cases hcheck : Template.check text with
      | ok _ => exact absurd hholds (Template.check_ok_iff.mp hcheck)
      | error fault =>
        obtain ⟨tokens, rfl, -⟩ := Template.reported hcheck
        exact ⟨_, rfl, rfl⟩
  · intro pattern count level speed wiring code log hcode
    obtain ⟨strip, pin, type, order, hstrip, hpin, htype, horder, htext, hcheck⟩ :=
      generate_eq_ok hcode
    have hfree := Template.check_ok_iff.mp hcheck
    refine ⟨hfree, fun points hpoints => ?_⟩
    have hbroken : codePoints pattern strip wiring = points := by
      rw [brokenPoints?, hstrip] at hpoints
      exact Option.some.inj (Option.filter_eq_some_iff.mp hpoints).1
    have hshown : (Text.shownPoints points).toList = code.toList := by
      rw [htext, ← shown_codePoints hpin htype horder, hbroken]
      exact String.toList_ofList
    rwa [← Template.holdsToken_shownPoints, hshown]

/-- A text with three signs before a token, one token that ends where another might have begun, and a
line break. -/
def crowded : List Char := "@@@RED@@BLUE@@ @@ @@7_@@\n@@RED@@".toList

/-- The tokens of a crowded text, and the sketch of a pattern that is called like a token. -/
theorem token_check_exact_crowded :
    HoldsToken crowded ∧
    Template.check crowded = .error (.unresolvedTokens ["@@7_@@", "@@RED@@"]) ∧
    (∃ fault, Template.check crowded = .error fault ∧ fault.label = "CodegenError") ∧
    ∃ code log, generate (.value (.text "@@HELPERS@@")) (.int 3) (.int 80) (.int 50) {} =
      .ok (code, log) ∧ ¬HoldsToken code.toList := by
  have hred : IsName "RED" := by decide
  have hholds : HoldsToken crowded := ⟨Template.token "RED", hred.isToken, by decide +kernel⟩
  obtain ⟨log, hcode⟩ := generate_plain Wiring.plain_default (.value (.text "@@HELPERS@@"))
    (n := 3) (by decide) (isWritableInt_of_digit (by decide)) 80 50
  have hfound : Template.leftover crowded = ["@@7_@@", "@@RED@@"] := by decide +kernel
  exact ⟨hholds, by rw [Template.check, hfound], (token_check_exact.1 crowded).1.mpr hholds, _, log, hcode,
    (token_check_exact.2.2 _ _ _ _ _ _ _ hcode).1⟩

end Sketch
end LedStudio
