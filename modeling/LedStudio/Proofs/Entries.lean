import LedStudio.Value

/-!
# Maps as lists of entries

Keys of different kinds may be one key, and a lone "not a number" is not even the same as itself. What
counts of a key is what it stands for; two keys are one if both stand for the same.

* `sameKey_iff` — when two values are one key.
* `get?_insert`, `get?_merge`, `get?_foldl_merge` — what is found in a map after keys are set in it,
  after another map is merged over it, and after several are.
-/

namespace LedStudio

/-! ## What a key stands for -/

/-- What a moment stands for: a point in time if it has an offset, and else the readings. -/
def Moment.keyId (m : Moment) : Int ⊕ Moment :=
  match m.offset with
  | some offset => .inl (m.instant offset)
  | none => .inr m

theorem Moment.same_iff {m n : Moment} : m.same n = true ↔ m.keyId = n.keyId := by
  unfold same keyId
  cases m.offset <;> cases n.offset <;> simp

/-- What tells a key from others. -/
inductive KeyId where
  | null
  | text (s : String)
  | brokenText (points : List Nat)
  | bytes (b : List UInt8)
  | date (d : Date)
  | moment (m : Int ⊕ Moment)
  | number (q : Rat)
  | infinite (negative : Bool)
  | nan

namespace Value

/-- What a key stands for; collections stand for nothing, and so does a lone "not a number". -/
def keyId? : Value → Option KeyId
  | null => some .null
  | text s => some (.text s)
  | brokenText points => some (.brokenText points)
  | bytes b => some (.bytes b)
  | date d => some (.date d)
  | moment m => some (.moment m.keyId)
  | float (.infinite negative) => some (.infinite negative)
  | float .nan => some .nan
  | v => v.exactNumber?.map .number

variable {a b c : Value}

/-- Two values are one key if both stand for the same. -/
theorem sameKey_iff : a.sameKey b = true ↔ a.keyId?.isSome ∧ a.keyId? = b.keyId? := by
  cases a with
  | float x =>
    cases x <;> cases b with
    | float y => cases y <;> simp [sameKey, keyId?, exactNumber?, Double.rational?]
    | _ => simp [sameKey, keyId?, exactNumber?, Double.rational?]
  | _ =>
    cases b with
    | float y => cases y <;> simp [sameKey, keyId?, exactNumber?, Double.rational?]
    | _ => simp [sameKey, keyId?, exactNumber?, Moment.same_iff]

theorem sameKey_comm : a.sameKey b = b.sameKey a := by
  rw [Bool.eq_iff_iff, sameKey_iff, sameKey_iff]
  constructor
  · rintro ⟨ha, h⟩
    exact ⟨h ▸ ha, h.symm⟩
  · rintro ⟨hb, h⟩
    exact ⟨h ▸ hb, h.symm⟩

/-- Values that are one key are the same keys as others. -/
theorem sameKey_congr (h : a.sameKey b = true) : a.sameKey c = b.sameKey c := by
  obtain ⟨ha, hab⟩ := sameKey_iff.1 h
  rw [Bool.eq_iff_iff, sameKey_iff, sameKey_iff, ← hab]

theorem sameKey_congr_right (h : b.sameKey c = true) : a.sameKey b = a.sameKey c := by
  rw [sameKey_comm, sameKey_congr h, sameKey_comm]

/-- No two of the keys are the same. -/
def DistinctKeys (keys : List Value) : Prop := keys.Pairwise fun k l => k.sameKey l = false

theorem DistinctKeys.concat {keys : List Value} {key : Value} (h : DistinctKeys keys)
    (hkey : ∀ k ∈ keys, k.sameKey key = false) : DistinctKeys (keys ++ [key]) := by
  refine List.pairwise_append.2 ⟨h, List.pairwise_singleton _ _, ?_⟩
  intro k hk l hl
  obtain rfl := List.mem_singleton.1 hl
  exact hkey k hk

end Value

namespace Entries

variable {base more es : Entries} {key k v : Value}

@[simp]
theorem get?_nil : get? [] k = none := rfl

theorem get?_cons {e : Value × Value} :
    get? (e :: es) k = if e.1.sameKey k then some e.2 else get? es k := by
  unfold get?
  rw [List.find?_cons]
  cases e.1.sameKey k <;> rfl

/-- Values that are one key find the same. -/
theorem get?_congr (es : Entries) (h : key.sameKey k = true) : get? es key = get? es k := by
  induction es with
  | nil => rfl
  | cons e es ih => rw [get?_cons, get?_cons, Value.sameKey_congr_right h, ih]

/-- A key that none of the keys is the same as finds nothing, and nor does what is the same key. -/
theorem get?_apart (h : ∀ e ∈ es, key.sameKey e.1 = false) (hkey : key.sameKey k = true) :
    get? es k = none := by
  induction es with
  | nil => rfl
  | cons e es ih =>
    have hother : e.1.sameKey k = false := by
      rw [Value.sameKey_comm, ← Value.sameKey_congr hkey]
      exact h e (.head _)
    rw [get?_cons, if_neg (by simp [hother])]
    exact ih fun f hf => h f (.tail _ hf)

/-- What is found stands in the map, under the same key. -/
theorem mem_of_get? (h : get? es k = some v) : ∃ key, (key, v) ∈ es ∧ key.sameKey k = true := by
  unfold get? at h
  obtain ⟨e, he, rfl⟩ := Option.map_eq_some_iff.1 h
  have hkey := List.find?_some he
  exact ⟨e.1, List.mem_of_find?_eq_some he, hkey⟩

/-! ## Distinct keys -/

/-- No two entries have the same key. -/
def Distinct (es : Entries) : Prop := Value.DistinctKeys (es.map (·.1))

theorem Distinct.nil : Distinct [] := List.Pairwise.nil

theorem Distinct.singleton {e : Value × Value} : Distinct [e] := List.pairwise_singleton _ _

theorem distinct_cons {e : Value × Value} :
    Distinct (e :: es) ↔ (∀ f ∈ es, e.1.sameKey f.1 = false) ∧ Distinct es := by
  unfold Distinct Value.DistinctKeys
  rw [List.map_cons, List.pairwise_cons, List.forall_mem_map]

/-- An entry is found under its key, and under what is the same key. -/
theorem Distinct.get?_of_mem (hes : Distinct es) (hmem : (key, v) ∈ es)
    (hkey : key.sameKey k = true) : get? es k = some v := by
  induction es with
  | nil => cases hmem
  | cons e es ih =>
    obtain ⟨hhead, htail⟩ := distinct_cons.1 hes
    rw [get?_cons]
    rcases List.mem_cons.1 hmem with rfl | hmem
    · rw [if_pos hkey]
    · have hother : e.1.sameKey k = false := by
        rw [← Value.sameKey_congr_right hkey]
        exact hhead _ hmem
      rw [if_neg (by simp [hother])]
      exact ih htail hmem

/-- After a key is set, it and what is the same key have the new value. -/
theorem get?_insert : get? (insert es key v) k = if key.sameKey k then some v else get? es k := by
  induction es with
  | nil => rw [insert, get?_cons]
  | cons e es ih =>
    rw [insert]
    by_cases hkey : e.1.sameKey key = true
    · rw [if_pos hkey, get?_cons, get?_cons, Value.sameKey_congr hkey]
      split <;> rfl
    · rw [if_neg hkey, get?_cons, get?_cons, ih]
      by_cases hk : e.1.sameKey k = true
      · have hother : key.sameKey k = false := by
          rw [Value.sameKey_comm, ← Value.sameKey_congr hk]
          exact Bool.eq_false_iff.2 hkey
        rw [if_pos hk, if_neg (by simp [hother]), if_pos hk]
      · rw [if_neg hk, if_neg hk]

/-- The keys after one is set are those before, and the new one at the end if it is not there. -/
theorem keys_insert :
    (insert es key v).map (·.1) =
      if es.any (·.1.sameKey key) then es.map (·.1) else es.map (·.1) ++ [key] := by
  induction es with
  | nil => rfl
  | cons e es ih =>
    rw [insert, List.any_cons]
    by_cases hkey : e.1.sameKey key = true
    · simp [hkey]
    · rw [if_neg hkey, List.map_cons, ih]
      simp only [hkey, Bool.false_or]
      split <;> rfl

theorem key_of_mem_insert {f : Value × Value} (h : f ∈ insert es key v) :
    f.1 = key ∨ ∃ e ∈ es, e.1 = f.1 := by
  have hmem := List.mem_map_of_mem (f := Prod.fst) h
  rw [keys_insert] at hmem
  split at hmem
  · exact .inr (List.mem_map.1 hmem)
  · rcases List.mem_append.1 hmem with hold | hnew
    · exact .inr (List.mem_map.1 hold)
    · exact .inl (List.mem_singleton.1 hnew)

theorem Distinct.insert (hes : Distinct es) : Distinct (insert es key v) := by
  unfold Distinct
  rw [keys_insert]
  split
  · exact hes
  · next hnew =>
    refine Value.DistinctKeys.concat hes ?_
    simpa using hnew

/-! ## Merging -/

theorem merge_cons {e : Value × Value} : merge base (e :: more) = merge (insert base e.1 e.2) more :=
  rfl

theorem Distinct.merge (hbase : Distinct base) : Distinct (merge base more) := by
  induction more generalizing base with
  | nil => exact hbase
  | cons e more ih => exact ih hbase.insert

/-- The keys of a merged map are those of the two. -/
theorem key_of_mem_merge {f : Value × Value} (h : f ∈ merge base more) :
    (∃ e ∈ base, e.1 = f.1) ∨ ∃ e ∈ more, e.1 = f.1 := by
  induction more generalizing base with
  | nil => exact .inl ⟨f, h, rfl⟩
  | cons e more ih =>
    rcases ih h with ⟨d, hd, hkey⟩ | ⟨d, hd, hkey⟩
    · rcases key_of_mem_insert hd with hnew | ⟨d', hd', hold⟩
      · exact .inr ⟨e, .head _, hnew.symm.trans hkey⟩
      · exact .inl ⟨d', hd', hold.trans hkey⟩
    · exact .inr ⟨d, .tail _ hd, hkey⟩

/-- After maps are merged, a key has the value that the second gives it, and else its old one. -/
theorem get?_merge (hmore : Distinct more) :
    get? (merge base more) k = (get? more k).or (get? base k) := by
  induction more generalizing base with
  | nil => rfl
  | cons e more ih =>
    obtain ⟨hhead, htail⟩ := distinct_cons.1 hmore
    rw [merge_cons, ih htail, get?_insert, get?_cons]
    by_cases hk : e.1.sameKey k = true
    · rw [if_pos hk, if_pos hk, get?_apart hhead hk]
      rfl
    · rw [if_neg hk, if_neg hk]

theorem key_of_mem_foldl_merge {maps : List Entries} {f : Value × Value}
    (h : f ∈ maps.foldl merge base) :
    (∃ e ∈ base, e.1 = f.1) ∨ ∃ es ∈ maps, ∃ e ∈ es, e.1 = f.1 := by
  induction maps generalizing base with
  | nil => exact .inl ⟨f, h, rfl⟩
  | cons es maps ih =>
    rcases ih h with ⟨d, hd, hkey⟩ | ⟨other, hother, hkey⟩
    · rcases key_of_mem_merge hd with ⟨e, he, hold⟩ | ⟨e, he, hnew⟩
      · exact .inl ⟨e, he, hold.trans hkey⟩
      · exact .inr ⟨es, .head _, e, he, hnew.trans hkey⟩
    · exact .inr ⟨other, .tail _ hother, hkey⟩

/-! ## The last that counts -/

/-- What the last of several maps that has a key gives it. -/
def last? (maps : List Entries) (key : Value) : Option Value :=
  maps.reverse.findSome? fun es => get? es key

theorem last?_append {before after : List Entries} :
    last? (before ++ after) k = (last? after k).or (last? before k) := by
  simp [last?, List.findSome?_append]

theorem last?_cons {maps : List Entries} :
    last? (es :: maps) k = (last? maps k).or (get? es k) := by
  simp [last?, List.findSome?_append]

theorem mem_of_last? {maps : List Entries} (h : last? maps k = some v) :
    ∃ es ∈ maps, get? es k = some v := by
  obtain ⟨es, hes, hv⟩ := List.exists_of_findSome?_eq_some h
  exact ⟨es, List.mem_reverse.1 hes, hv⟩

theorem last?_of_last {before after : List Entries}
    (hafter : ∀ es ∈ after, get? es k = none) (hes : get? es k = some v) :
    last? (before ++ es :: after) k = some v := by
  have hnone : last? after k = none := by
    cases h : last? after k with
    | none => rfl
    | some w =>
      obtain ⟨other, hother, hw⟩ := mem_of_last? h
      cases (hafter other hother).symm.trans hw
  rw [last?_append, last?_cons, hnone, hes]
  rfl

/-- After maps are merged one after the other, the last that has a key decides on its value. -/
theorem get?_foldl_merge {maps : List Entries} (hmaps : ∀ es ∈ maps, Distinct es) :
    get? (maps.foldl merge base) k = (last? maps k).or (get? base k) := by
  induction maps generalizing base with
  | nil => rfl
  | cons es maps ih =>
    rw [List.foldl_cons, ih fun es hes => hmaps es (.tail _ hes), get?_merge (hmaps es (.head _)),
      last?_cons, Option.or_assoc]

end Entries
end LedStudio
