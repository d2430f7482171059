import LedStudio.Proofs.Entries
import LedStudio.Settings.Basic

/-!
# Sections over the built-in ones

* `overBuiltIn_ok` — settings have what a document gives, key by key, and else what is built in; the
  sections that are not built in are those of the document.
* `overBuiltIn_isOk` — a document is refused only for a built-in section that is neither a map nor
  empty.
* `OverBuiltIn.complete` — whatever the document, every built-in section is there with all its keys.
-/

namespace LedStudio.Settings

variable {doc done data : Entries} {name key v : Value}

/-! ## What a document gives -/

/-- The settings that a document gives a section: none if the section is missing or empty. A section
that is no map gives nothing that could be merged. -/
def given (doc : Entries) (name : Value) : Option Entries :=
  match (Entries.get? doc name).getD .null with
  | .null => some []
  | .map es => some es
  | _ => none

/-- The document gives every built-in section something that can be merged. -/
def Fits (doc : Entries) : Prop :=
  ∀ name, (Entries.get? builtIn name).isSome → (given doc name).isSome

/-- What is read has each key once, and so has every section in it. -/
structure Regular (doc : Entries) : Prop where
  distinct : doc.Distinct
  inner {name : Value} {es : Entries} : Entries.get? doc name = some (.map es) → es.Distinct

/-- Settings have what a document gives, key by key, and else what is built in. -/
structure OverBuiltIn (doc data : Entries) : Prop where
  known {name : Value} {own : Entries} : Entries.get? builtIn name = some (.map own) →
    ∃ es m, given doc name = some es ∧ Entries.get? data name = some (.map m) ∧
      ∀ key, Entries.get? m key = (Entries.get? es key).or (Entries.get? own key)
  unknown {name : Value} : Entries.get? builtIn name = none →
    Entries.get? data name = Entries.get? doc name

/-- Every built-in section is there as a map, with all the keys that are built in. -/
def Complete (data : Entries) : Prop :=
  ∀ name own, Entries.get? builtIn name = some (.map own) →
    ∃ m, Entries.get? data name = some (.map m) ∧
      ∀ key, (Entries.get? own key).isSome → (Entries.get? m key).isSome

/-- What is given is the map that stands there, or nothing. -/
theorem given_cases {es : Entries} (h : given doc name = some es) :
    Entries.get? doc name = some (.map es) ∨
      es = [] ∧ (Entries.get? doc name = none ∨ Entries.get? doc name = some .null) := by
  unfold given at h
  cases hname : Entries.get? doc name with
  | none =>
    rw [hname] at h
    obtain rfl := Option.some.inj h
    exact .inr ⟨rfl, .inl rfl⟩
  | some v =>
    rw [hname] at h
    cases v with
    | null =>
      obtain rfl := Option.some.inj h
      exact .inr ⟨rfl, .inr rfl⟩
    | map inner =>
      obtain rfl := Option.some.inj h
      exact .inl rfl
    | _ => cases h

/-- Every built-in section is a map. -/
theorem builtIn_map (h : Entries.get? builtIn name = some v) : ∃ own, v = .map own := by
  obtain ⟨key, hmem, _⟩ := Entries.mem_of_get? h
  simp only [builtIn, List.mem_cons, Prod.mk.injEq, List.not_mem_nil, or_false] at hmem
  rcases hmem with ⟨_, rfl⟩ | ⟨_, rfl⟩ | ⟨_, rfl⟩ | ⟨_, rfl⟩ | ⟨_, rfl⟩ <;> exact ⟨_, rfl⟩

theorem builtIn_complete : Complete builtIn := fun _ own h => ⟨own, h, fun _ hkey => hkey⟩

theorem OverBuiltIn.complete (h : OverBuiltIn doc data) : Complete data := by
  intro name own hown
  obtain ⟨es, m, _, hm, hkeys⟩ := h.known hown
  refine ⟨m, hm, fun key hkey => ?_⟩
  rw [hkeys, Option.isSome_or, hkey, Bool.or_true]

namespace Regular

theorem of_mem (hdoc : doc.Distinct)
    (hinner : ∀ e ∈ doc, ∀ es : Entries, e.2 = .map es → es.Distinct) : Regular doc where
  distinct := hdoc
  inner h := by
    obtain ⟨key, hmem, _⟩ := Entries.mem_of_get? h
    exact hinner _ hmem _ rfl

theorem nil : Regular [] := ⟨.nil, fun h => by cases h⟩

theorem merge {more : Entries} (hdoc : Regular doc) (hmore : Regular more) :
    Regular (Entries.merge doc more) where
  distinct := hdoc.distinct.merge
  inner {name es} h := by
    rw [Entries.get?_merge hmore.distinct, Option.or_eq_some_iff] at h
    rcases h with h | ⟨_, h⟩
    · exact hmore.inner h
    · exact hdoc.inner h

theorem foldl_merge {parts : List Entries} (hdoc : Regular doc) (hparts : ∀ p ∈ parts, Regular p) :
    Regular (parts.foldl Entries.merge doc) := by
  induction parts generalizing doc with
  | nil => exact hdoc
  | cons p parts ih => exact ih (hdoc.merge (hparts p (.head _))) fun q hq => hparts q (.tail _ hq)

theorem given (hdoc : Regular doc) {es : Entries} (h : given doc name = some es) :
    es.Distinct := by
  rcases given_cases h with hmap | ⟨rfl, _⟩
  · exact hdoc.inner hmap
  · exact .nil

end Regular

/-! ## One section -/

/-- What stands under a name after a value is merged over what stood there. -/
def overlay (known : Bool) (v : Value) (old : Option Value) : Option Value :=
  match known, v, old with
  | true, .null, old => old
  | true, .map es, some (.map own) => some (.map (Entries.merge own es))
  | _, v, _ => some v

theorem overlay_map_of_none {es : Entries} {old : Option Value}
    (h : ∀ own, old ≠ some (.map own)) : overlay true (.map es) old = some (.map es) := by
  unfold overlay
  split
  · next h' => cases h'
  · next own _ _ => exact absurd rfl (h own)
  · rfl

/-- Merging one section changes what stands under its name, and nothing else. -/
theorem mergeSection_get? (key : Value) (h : mergeSection done name v = .ok data) :
    Entries.get? data key =
      if name.sameKey key then
        overlay (Entries.get? builtIn key).isSome v (Entries.get? done key)
      else Entries.get? done key := by
  -- Under another spelling of the name the same is found, in the built-in settings and in `done`.
  have hset {w : Value}
      (hw : overlay (Entries.get? builtIn name).isSome v (Entries.get? done name) = some w) :
      Entries.get? (Entries.insert done name w) key =
        if name.sameKey key then
          overlay (Entries.get? builtIn key).isSome v (Entries.get? done key)
        else Entries.get? done key := by
    rw [Entries.get?_insert]
    split
    · next hkey =>
      rw [← Entries.get?_congr builtIn hkey, ← Entries.get?_congr done hkey, hw]
    · rfl
  unfold mergeSection at h
  split at h
  · next hnone =>
    obtain rfl := Except.ok.inj h
    exact hset (by rw [hnone]; rfl)
  · next own hsome =>
    obtain rfl := Except.ok.inj h
    split
    · next hkey =>
      rw [← Entries.get?_congr builtIn hkey, hsome]
      rfl
    · rfl
  · next own es hsome =>
    split at h
    · next old hold =>
      obtain rfl := Except.ok.inj h
      exact hset (by rw [hsome, hold]; rfl)
    · next hold =>
      obtain rfl := Except.ok.inj h
      exact hset (by rw [hsome]; exact overlay_map_of_none hold)
  · cases h

/-- A section is refused only if it is built in and is neither a map nor empty. -/
theorem mergeSection_isOk (done : Entries) :
    (∃ data, mergeSection done name v = .ok data) ↔
      ((Entries.get? builtIn name).isSome → v = .null ∨ ∃ es, v = .map es) := by
  unfold mergeSection
  cases Entries.get? builtIn name with
  | none => simp
  | some own =>
    cases v with
    | map es =>
      constructor
      · exact fun _ _ => .inr ⟨es, rfl⟩
      · intro _
        dsimp only
        split
        · exact ⟨_, rfl⟩
        · exact ⟨_, rfl⟩
    | _ => simp

theorem key_of_mergeSection {e : Value × Value} (h : mergeSection done name v = .ok data)
    (he : e ∈ data) : e.1 = name ∨ ∃ d ∈ done, d.1 = e.1 := by
  unfold mergeSection at h
  split at h
  · obtain rfl := Except.ok.inj h
    exact Entries.key_of_mem_insert he
  · obtain rfl := Except.ok.inj h
    exact .inr ⟨e, he, rfl⟩
  · split at h
    · obtain rfl := Except.ok.inj h
      exact Entries.key_of_mem_insert he
    · obtain rfl := Except.ok.inj h
      exact Entries.key_of_mem_insert he
  · cases h

/-! ## All sections -/

theorem mergeSections_cons {e : Value × Value} {rest : Entries} :
    mergeSections done (e :: rest) =
      (mergeSection done e.1 e.2).bind fun done => mergeSections done rest := rfl

/-- After sections are merged, a name has what stood under it with what the document gives over it. -/
theorem mergeSections_get? (key : Value) (hdoc : doc.Distinct)
    (h : mergeSections done doc = .ok data) :
    Entries.get? data key =
      match Entries.get? doc key with
      | none => Entries.get? done key
      | some v => overlay (Entries.get? builtIn key).isSome v (Entries.get? done key) := by
  induction doc generalizing done with
  | nil =>
    obtain rfl := Except.ok.inj h
    rfl
  | cons e rest ih =>
    obtain ⟨hhead, htail⟩ := Entries.distinct_cons.1 hdoc
    rw [mergeSections_cons] at h
    cases hfirst : mergeSection done e.1 e.2 with
    | error f =>
      rw [hfirst] at h
      cases h
    | ok next =>
      rw [hfirst] at h
      have hnext := mergeSection_get? key hfirst
      rw [ih htail h, Entries.get?_cons, hnext]
      by_cases hkey : e.1.sameKey key = true
      · rw [Entries.get?_apart hhead hkey, if_pos hkey, if_pos hkey]
      · rw [if_neg hkey, if_neg hkey]

/-- Merging brings in no keys but those of the document. -/
theorem key_of_mergeSections {e : Value × Value} (h : mergeSections done doc = .ok data)
    (he : e ∈ data) : (∃ d ∈ done, d.1 = e.1) ∨ ∃ d ∈ doc, d.1 = e.1 := by
  induction doc generalizing done with
  | nil =>
    obtain rfl := Except.ok.inj h
    exact .inl ⟨e, he, rfl⟩
  | cons first rest ih =>
    rw [mergeSections_cons] at h
    cases hfirst : mergeSection done first.1 first.2 with
    | error f =>
      rw [hfirst] at h
      cases h
    | ok next =>
      rw [hfirst] at h
      rcases ih h with ⟨d, hd, hkey⟩ | ⟨d, hd, hkey⟩
      · rcases key_of_mergeSection hfirst hd with hnew | ⟨d', hd', hold⟩
        · exact .inr ⟨first, .head _, hnew.symm.trans hkey⟩
        · exact .inl ⟨d', hd', hold.trans hkey⟩
      · exact .inr ⟨d, .tail _ hd, hkey⟩

theorem mergeSections_isOk :
    (∃ data, mergeSections done doc = .ok data) ↔
      ∀ e ∈ doc, (Entries.get? builtIn e.1).isSome → e.2 = .null ∨ ∃ es, e.2 = .map es := by
  induction doc generalizing done with
  | nil => exact ⟨fun _ e he => by (cases he), fun _ => ⟨done, rfl⟩⟩
  | cons e rest ih =>
    rw [mergeSections_cons, List.forall_mem_cons, ← mergeSection_isOk done]
    cases mergeSection done e.1 e.2 with
    | error f => simp [Except.bind]
    | ok next => simp only [Except.bind, ih, Except.ok.injEq, exists_eq', true_and]

theorem given_isSome :
    (given doc name).isSome ↔
      ∀ v, Entries.get? doc name = some v → v = .null ∨ ∃ es, v = .map es := by
  unfold given
  cases Entries.get? doc name with
  | none => simp
  | some v => cases v <;> simp

/-- A document with distinct keys is refused only if it does not fit. -/
theorem overBuiltIn_isOk (hdoc : doc.Distinct) :
    (∃ data, overBuiltIn doc = .ok data) ↔ Fits doc := by
  unfold overBuiltIn Fits
  rw [mergeSections_isOk]
  constructor
  · intro h name hname
    rw [given_isSome]
    intro v hv
    obtain ⟨key, hmem, hkey⟩ := Entries.mem_of_get? hv
    refine h (key, v) hmem ?_
    rwa [Entries.get?_congr builtIn hkey]
  · intro h e hmem hknown
    obtain ⟨own, hown⟩ := Option.isSome_iff_exists.1 hknown
    obtain ⟨key, _, hkey⟩ := Entries.mem_of_get? hown
    have hself : e.1.sameKey e.1 = true := by
      rw [← Value.sameKey_congr hkey, hkey]
    exact given_isSome.1 (h e.1 hknown) e.2 (hdoc.get?_of_mem hmem hself)

theorem overBuiltIn_ok (hdoc : Regular doc) (h : overBuiltIn doc = .ok data) :
    OverBuiltIn doc data where
  known {name own} hown := by
    have hfits := (overBuiltIn_isOk hdoc.distinct).1 ⟨data, h⟩ name (by rw [hown]; rfl)
    have hdata := mergeSections_get? name hdoc.distinct h
    obtain ⟨es, hes⟩ := Option.isSome_iff_exists.1 hfits
    have hdistinct := hdoc.given hes
    refine ⟨es, Entries.merge own es, hes, ?_, fun key => Entries.get?_merge hdistinct⟩
    rw [hdata, hown]
    rcases given_cases hes with hmap | ⟨rfl, hnone | hnull⟩
    · rw [hmap]
      rfl
    · rw [hnone]
      rfl
    · rw [hnull]
      rfl
  unknown {name} hnone := by
    rw [mergeSections_get? name hdoc.distinct h, hnone]
    cases Entries.get? doc name <;> rfl

end LedStudio.Settings
