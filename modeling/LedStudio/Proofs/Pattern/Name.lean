import LedStudio.Pattern.Basic
import LedStudio.Proofs.Text.Padding
import Mathlib.Data.List.TakeWhile

/-!
# What names a pattern

A text names a pattern if, without the blanks around it and in lower case, it is one of eight words.
The words are made of small letters alone, so a single character of another kind, anywhere in a text
but for the blanks around it, is enough for the text to name nothing. The texts of values that are
no texts have such a character, but for a few that can be looked up.

* `ofText?_display` — the text of a value that is no text names no pattern.
* `normalize_kept` — what is kept of a reference is a pattern, or a text that names none.
-/

namespace LedStudio
namespace Text

theorem mem_dropWhile {p : Char → Bool} {s : List Char} {c : Char} (hc : c ∈ s)
    (hp : p c = false) : c ∈ s.dropWhile p := by
  rw [← List.takeWhile_append_dropWhile (p := p) (l := s), List.mem_append] at hc
  obtain htake | hdrop := hc
  · rw [List.mem_takeWhile_imp htake] at hp
    cases hp
  · exact hdrop

theorem mem_trim {s : List Char} {c : Char} (hc : c ∈ s) (hb : isBlank c = false) :
    c ∈ trim s := by
  have hfront := List.mem_reverse.mpr (mem_dropWhile hc hb)
  exact List.mem_reverse.mpr (mem_dropWhile hfront hb)

theorem mem_lowerFrom {s : List Char} {c d : Char} (hc : c ∈ s) (hs : c ≠ 'Σ')
    (hd : d ∈ lowerChar c) (before : List Char) : d ∈ lowerFrom before s := by
  induction s generalizing before with
  | nil => cases hc
  | cons first rest ih =>
    rw [lowerFrom, List.mem_append]
    obtain rfl | htail := List.mem_cons.mp hc
    · left
      rw [if_neg hs]
      exact hd
    · exact .inr (ih htail (first :: before))

end Text

/-- What is looked for when a text is. -/
theorem searchKey_text (s : String) :
    searchKey (Value.text s).points = (Text.lower (Text.trim s.toList)).map Char.toNat := by
  rw [searchKey, Value.points, Text.trimPoints_toNat, Text.lowerPoints_toNat]

open Text (isBlank lowerChar apostrophe quotationMark)

/-- A character that no name of a pattern holds, and that is no padding. -/
structure Foreign (c : Char) : Prop where
  notBlank : isBlank c = false
  notSigma : c ≠ 'Σ'
  notSmall : (lowerChar c).all Char.isLower = false

instance (c : Char) : Decidable (Foreign c) :=
  decidable_of_iff (isBlank c = false ∧ c ≠ 'Σ' ∧ (lowerChar c).all Char.isLower = false)
    ⟨fun h => ⟨h.1, h.2.1, h.2.2⟩, fun h => ⟨h.1, h.2, h.3⟩⟩

namespace PatternId

/-- The names of patterns are made of small letters. -/
theorem small_of_answersTo : ∀ m ∈ choice.members, ∀ key, m.answersTo key = true →
    ∀ p ∈ key, (Char.ofNat p).isLower = true := by
  have hnames : ∀ m ∈ choice.members, ∀ name ∈ m.names,
      ∀ p ∈ Text.lowerPoints name, (Char.ofNat p).isLower = true := by
    decide +kernel
  intro m hm key hkey
  obtain ⟨name, hname, hsame⟩ := List.any_eq_true.mp hkey
  obtain rfl := eq_of_beq hsame
  exact hnames m hm name hname

/-- A text with a foreign character names no pattern. -/
theorem ofText?_foreign {s : String} {c : Char} (hc : c ∈ s.toList) (h : Foreign c) :
    ofText? s = none := by
  obtain ⟨d, hd, hlarge⟩ := List.all_eq_false.mp h.notSmall
  have hlower : d ∈ Text.lower (Text.trim s.toList) :=
    Text.mem_lowerFrom (Text.mem_trim hc h.notBlank) h.notSigma hd []
  have hkey : d.toNat ∈ searchKey (Value.text s).points := by
    rw [searchKey_text]
    exact List.mem_map_of_mem hlower
  cases hfound : choice.find? s with
  | none => simp [ofText?, hfound]
  | some m =>
    rw [Choice.find?, Choice.findPoints?] at hfound
    have hanswers := List.find?_some hfound
    have hsmall := small_of_answersTo m (List.mem_of_find?_eq_some hfound) _ hanswers d.toNat hkey
    rw [Char.ofNat_toNat] at hsmall
    exact absurd hsmall hlarge

end PatternId

/-! ## The texts of values -/

/-- A text that holds a foreign character. -/
def HasForeign (s : String) : Prop := ∃ c ∈ s.toList, Foreign c

theorem HasForeign.append_left {s : String} (h : HasForeign s) (t : String) :
    HasForeign (s ++ t) := by
  obtain ⟨c, hc, hforeign⟩ := h
  exact ⟨c, by rw [String.toList_append]; exact List.mem_append_left _ hc, hforeign⟩

theorem HasForeign.append_right {t : String} (h : HasForeign t) (s : String) :
    HasForeign (s ++ t) := by
  obtain ⟨c, hc, hforeign⟩ := h
  exact ⟨c, by rw [String.toList_append]; exact List.mem_append_right _ hc, hforeign⟩

theorem hasForeign_ofList {s : List Char} {c : Char} (hc : c ∈ s) (h : Foreign c) :
    HasForeign (.ofList s) :=
  ⟨c, by rwa [String.toList_ofList], h⟩

theorem foreign_of_isDigit {c : Char} (h : c.isDigit = true) : Foreign c := by
  have hall : ∀ n < 58, 48 ≤ n → Foreign (Char.ofNat n) := by decide +kernel
  obtain ⟨hlow, hhigh⟩ := Char.isDigit_iff_toNat.mp h
  rw [← c.ofNat_toNat]
  exact hall c.toNat (Nat.lt_succ_of_le hhigh) hlow

theorem hasForeign_nat (n : Nat) : HasForeign n.repr := by
  obtain ⟨c, rest, hcons⟩ := List.exists_cons_of_ne_nil (Nat.toDigits_ne_nil (b := 10) (n := n))
  have hc : c ∈ Nat.toDigits 10 n := by rw [hcons]; exact List.mem_cons_self
  exact hasForeign_ofList hc
    (foreign_of_isDigit (Nat.isDigit_of_mem_toDigits (by decide) (by decide) hc))

theorem hasForeign_int (n : Int) : HasForeign (toString n) := by
  rw [Int.toString_eq_repr, Int.repr_eq_if]
  split
  · exact hasForeign_nat n.toNat
  · exact (hasForeign_nat (-n).toNat).append_right "-"

theorem point_mem_plain (digits : List Char) (point : Int) :
    '.' ∈ NumberLayout.plain digits point := by
  unfold NumberLayout.plain
  split <;> simp

theorem sign_mem_scientific (width : Nat) (digits : List Char) (exponent : Int) :
    ∃ c ∈ NumberLayout.scientific width digits exponent, c = '+' ∨ c = '-' := by
  refine ⟨if exponent < 0 then '-' else '+', ?_, ?_⟩
  · unfold NumberLayout.scientific
    simp
  · split <;> simp

/-- The signs that stand in the texts of values. -/
theorem foreign_of_sign :
    ∀ c ∈ ['.', '+', '-', '[', '(', '\x7b', apostrophe, quotationMark], Foreign c := by
  simp only [List.forall_mem_cons, List.not_mem_nil, false_imp_iff, implies_true, and_true]
  and_intros <;> decide +kernel

theorem hasForeign_positive (layout : NumberLayout) (q : Rat) :
    ∃ c ∈ layout.positive q, Foreign c := by
  simp only [NumberLayout.positive]
  split
  · exact ⟨'.', point_mem_plain _ _, foreign_of_sign _ (by simp)⟩
  · obtain ⟨c, hc, rfl | rfl⟩ := sign_mem_scientific layout.exponentWidth _ _ <;>
      exact ⟨_, hc, foreign_of_sign _ (by simp)⟩

theorem hasForeign_date (d : Date) : HasForeign d.text :=
  HasForeign.append_left (.append_left (.append_left (.append_right
    ⟨'-', List.mem_singleton.mpr rfl, foreign_of_sign _ (by simp)⟩ _) _) _) _

theorem hasForeign_moment (m : Moment) : HasForeign m.text := by
  unfold Moment.text
  exact ((((hasForeign_date m.date).append_left _).append_left _).append_left _).append_left _

theorem hasForeign_quotedBytes (b : List UInt8) : HasForeign (Text.quotedBytes b) := by
  have hmark : ∀ s, Foreign (Text.quoteMark s) := by
    intro s
    unfold Text.quoteMark
    split <;> exact foreign_of_sign _ (by simp)
  exact hasForeign_ofList (List.mem_cons_of_mem _ List.mem_cons_self) (hmark _)

/-- The text of a collection opens with a bracket. -/
theorem hasForeign_collection {first : String} (h : first ∈ ["[", "(", "\x7b"])
    (middle last : String) : HasForeign (first ++ middle ++ last) := by
  refine .append_left (.append_left ?_ middle) last
  simp only [List.mem_cons, List.not_mem_nil, or_false] at h
  obtain rfl | rfl | rfl := h
  · exact ⟨'[', List.mem_singleton.mpr rfl, foreign_of_sign _ (by simp)⟩
  · exact ⟨'(', List.mem_singleton.mpr rfl, foreign_of_sign _ (by simp)⟩
  · exact ⟨'\x7b', List.mem_singleton.mpr rfl, foreign_of_sign _ (by simp)⟩

namespace PatternId

theorem ofText?_of_hasForeign {s : String} (h : HasForeign s) : ofText? s = none := by
  obtain ⟨c, hc, hforeign⟩ := h
  exact ofText?_foreign hc hforeign

/-- The texts of values that are words. -/
theorem ofText?_word : ∀ word ∈ ["None", "True", "False", "set()", "[...]", "\x7b...\x7d",
    "nan", "inf", "-inf", "0.0", "-0.0"], ofText? word = none := by
  simp only [List.forall_mem_cons, List.not_mem_nil, false_imp_iff, implies_true, and_true]
  and_intros <;> decide +kernel

theorem ofText?_double (x : Double) : ofText? x.text = none := by
  cases x with
  | nan => exact ofText?_word _ (by simp [Double.text])
  | infinite negative => cases negative <;> exact ofText?_word _ (by simp [Double.text])
  | negZero => exact ofText?_word _ (by simp [Double.text])
  | finite q =>
    simp only [Double.text]
    split
    · exact ofText?_word _ (by simp)
    · obtain ⟨c, hc, hforeign⟩ := hasForeign_positive numberLayout q.abs
      exact ofText?_of_hasForeign (hasForeign_ofList (List.mem_append_right _ hc) hforeign)

/-- The text of a value that is no text names no pattern. -/
theorem ofText?_display {v : Value} (hv : v.kind ≠ .text) : ofText? v.display = none := by
  cases v with
  | null => exact ofText?_word _ (by simp [Value.display, Value.inspect])
  | bool b => cases b <;> exact ofText?_word _ (by simp [Value.display, Value.inspect])
  | int n => exact ofText?_of_hasForeign (hasForeign_int n)
  | float x => exact ofText?_double x
  | loneNan => exact ofText?_double .nan
  | text s => exact absurd rfl hv
  | brokenText points => exact absurd rfl hv
  | bytes b => exact ofText?_of_hasForeign (hasForeign_quotedBytes b)
  | date d => exact ofText?_of_hasForeign (hasForeign_date d)
  | moment m => exact ofText?_of_hasForeign (hasForeign_moment m)
  | list items =>
    simp only [Value.display, Value.inspect]
    exact ofText?_of_hasForeign (hasForeign_collection (by simp) _ _)
  | tuple items =>
    match items with
    | [] =>
      simp only [Value.display, Value.inspect]
      exact ofText?_of_hasForeign (hasForeign_collection (by simp) _ _)
    | [v] =>
      simp only [Value.display, Value.inspect]
      exact ofText?_of_hasForeign (hasForeign_collection (by simp) _ _)
    | v :: w :: rest =>
      simp only [Value.display, Value.inspect]
      exact ofText?_of_hasForeign (hasForeign_collection (by simp) _ _)
  | set members =>
    match members with
    | [] =>
      exact ofText?_word _ (by simp [Value.display, Value.inspect])
    | v :: rest =>
      simp only [Value.display, Value.inspect]
      exact ofText?_of_hasForeign (hasForeign_collection (by simp) _ _)
  | map entries =>
    simp only [Value.display, Value.inspect]
    exact ofText?_of_hasForeign (hasForeign_collection (by simp) _ _)
  | again isMap =>
    cases isMap <;> exact ofText?_word _ (by simp [Value.display, Value.inspect])

end PatternId

/-! ## References -/

namespace PatternRef

/-- The reference is a text. -/
def IsText : PatternRef → Prop
  | .value (.text _) | .broken _ => True
  | _ => False

theorem normalize_value {v : Value} (hv : v.kind ≠ .text) :
    normalize (.value v) = .value (.text v.display) := by
  cases v with
  | text s => exact absurd rfl hv
  | brokenText points => exact absurd rfl hv
  | _ => rfl

/-- **What is kept of a reference is a pattern, or a text that names none.** -/
theorem normalize_kept (ref : PatternRef) :
    (∃ p, ref.normalize = .id p) ∨ ref.normalize.IsText ∧ ref.normalize.resolve = none := by
  cases hr : ref.resolve with
  | some p => exact .inl ⟨p, by simp only [normalize, hr]⟩
  | none =>
    right
    cases ref with
    | id p => cases hr
    | broken points => exact ⟨trivial, rfl⟩
    | value v =>
      by_cases hv : v.kind = .text
      · cases v with
        | text s =>
          have hn : normalize (.value (.text s)) = .value (.text s) := by
            simp only [normalize, hr, name, Value.display]
          rw [hn]
          exact ⟨trivial, hr⟩
        | brokenText points => exact ⟨trivial, rfl⟩
        | again isMap => cases isMap <;> cases hv
        | _ => cases hv
      · rw [normalize_value hv]
        exact ⟨trivial, PatternId.ofText?_display hv⟩

end PatternRef
end LedStudio
