import LedStudio.Proofs.Entries
import LedStudio.Proofs.Outcome
import LedStudio.Yaml.Document

/-!
# Documents have each key once

* `textValue_isKey` — the value of a text may always stand as a key; no text is read as a map.
* `contents_sound` — whatever the nodes of a document are, the mappings that are built of them have
  each key once.
* `load_distinct` — so have the document and the sections in it.
-/

namespace LedStudio.Yaml

/-! ## Values of texts -/

theorem decimalOf_isKey {points : List Nat} {v : Value} (h : decimalOf points = .ok v) :
    v.isKey = true := by
  unfold decimalOf at h
  split at h
  · cases h
  · split at h
    · obtain rfl := Except.ok.inj h
      rfl
    · obtain ⟨x, _, rfl⟩ := Outcome.map_eq_ok h
      split <;> rfl

theorem momentOf_isKey {s : List Char} {v : Value} (h : momentOf s = .ok v) : v.isKey = true := by
  unfold momentOf at h
  split at h
  · cases h
  · next w _ =>
    unfold WrittenMoment.value at h
    split at h
    · cases hdate : Date.of w.year w.month w.day with
      | error e =>
        rw [hdate] at h
        cases h
      | ok d =>
        rw [hdate] at h
        obtain rfl := Except.ok.inj h
        rfl
    · next t _ =>
      cases hmoment : Moment.of w.year w.month w.day t.hour t.minute t.second
          (WrittenMoment.microseconds t.fraction) t.offset with
      | error e =>
        rw [hmoment] at h
        cases h
      | ok m =>
        rw [hmoment] at h
        obtain rfl := Except.ok.inj h
        rfl

theorem ofPoints_isKey (points : List Nat) : (Value.ofPoints points).isKey = true := by
  unfold Value.ofPoints
  split <;> rfl

/-- A text is never read as a collection. -/
theorem textValue_isKey {tag : Tag} {points : List Nat} {v : Value}
    (h : textValue tag points = .ok v) : v.isKey = true := by
  unfold textValue at h
  split at h
  · obtain rfl := Except.ok.inj h
    rfl
  · obtain ⟨b, _, rfl⟩ := Outcome.map_eq_ok h
    rfl
  · obtain ⟨n, _, rfl⟩ := Outcome.map_eq_ok h
    rfl
  · exact decimalOf_isKey h
  · exact momentOf_isKey h
  · split at h
    · obtain rfl := Except.ok.inj h
      rfl
    · cases h
  · obtain rfl := Except.ok.inj h
    exact ofPoints_isKey points
  · cases h

/-! ## Entries of mappings -/

/-- No two entries have the same key. -/
def EntriesDistinct (es : List Entry) : Prop := Value.DistinctKeys (es.map (·.key))

/-- The keys after an entry is set are those before, and the new one at the end if neither its node
nor its value is there. -/
theorem keys_insert {new : Entry} {es : List Entry} :
    (new.insert es).map (·.key) =
      if es.any fun e => e.keyId = new.keyId || e.key.sameKey new.key then es.map (·.key)
      else es.map (·.key) ++ [new.key] := by
  induction es with
  | nil => rfl
  | cons e es ih =>
    rw [Entry.insert, List.any_cons]
    by_cases hkey : (e.keyId = new.keyId || e.key.sameKey new.key) = true
    · simp [hkey]
    · rw [if_neg hkey, List.map_cons, ih]
      simp only [hkey, Bool.false_or]
      split <;> rfl

theorem EntriesDistinct.insert {new : Entry} {es : List Entry} (hes : EntriesDistinct es) :
    EntriesDistinct (new.insert es) := by
  unfold EntriesDistinct
  rw [keys_insert]
  split
  · exact hes
  · next hnew =>
    refine Value.DistinctKeys.concat hes fun k hk => ?_
    obtain ⟨e, he, rfl⟩ := List.mem_map.1 hk
    simp only [List.any_eq_true, not_exists, not_and, Bool.or_eq_true, not_or,
      Bool.not_eq_true] at hnew
    exact (hnew e he).2

theorem EntriesDistinct.foldl_insert {news es : List Entry} (hes : EntriesDistinct es) :
    EntriesDistinct (news.foldl (fun es e => e.insert es) es) := by
  induction news generalizing es with
  | nil => exact hes
  | cons e news ih => exact ih hes.insert

/-! ## Contents of nodes -/

/-- What a node without others in it holds may stand as a key; a mapping has each key once. -/
def Content.Sound : Content → Prop
  | .leaf v => v.isKey = true
  | .entries es => EntriesDistinct es
  | _ => True

/-- All nodes that have contents have sound ones. -/
def ContentsSound (contents : Array (Option Content)) : Prop :=
  ∀ (id : NodeId) (c : Content), contents[id]? = some (some c) → c.Sound

namespace Filling

/-- A step that, if the document is not refused, leaves sound contents if they were. -/
def Keeps {α : Type} (m : Fill α) : Prop :=
  ∀ (f : Filling) (a : α) (g : Filling), m f = .ok (a, g) → ContentsSound f.contents →
    ContentsSound g.contents

/-- The step has this result, from some state. -/
def Gives {α : Type} (m : Fill α) (a : α) : Prop := ∃ f g, m f = .ok (a, g)

namespace Keeps

variable {α β : Type}

theorem pure (a : α) : Keeps (Pure.pure a : Fill α) := by
  intro f b g h hf
  obtain ⟨_, rfl⟩ := Prod.mk.inj (Except.ok.inj h)
  exact hf

theorem bind {m : Fill α} {next : α → Fill β} (hm : Keeps m)
    (hnext : ∀ a, Gives m a → Keeps (next a)) : Keeps (m >>= next) := by
  intro f b g h hf
  obtain ⟨⟨a, f'⟩, hfirst, hrest⟩ := Outcome.bind_eq_ok (r := m f) h
  exact hnext a ⟨f, f', hfirst⟩ f' b g hrest (hm f a f' hfirst hf)

theorem read : Keeps (get : Fill Filling) := by
  intro f b g h hf
  obtain ⟨_, rfl⟩ := Prod.mk.inj (Except.ok.inj h)
  exact hf

theorem update {g : Filling → Filling} (h : ∀ f, ContentsSound f.contents →
    ContentsSound (g f).contents) : Keeps (modify g : Fill PUnit) := by
  intro f b f' hstep hf
  obtain ⟨_, rfl⟩ := Prod.mk.inj (Except.ok.inj hstep)
  exact h f hf

theorem lift (r : Outcome α) : Keeps (liftM r : Fill α) := by
  intro f b g h hf
  cases r with
  | error e => cases h
  | ok a =>
    obtain ⟨_, rfl⟩ := Prod.mk.inj (Except.ok.inj h)
    exact hf

theorem refuse : Keeps (Filling.refuse : Fill α) := by
  intro f b g h
  cases h

theorem forM {l : List α} {step : α → Fill PUnit} (h : ∀ a, Keeps (step a)) :
    Keeps (l.forM step) := by
  induction l with
  | nil => exact pure _
  | cons a l ih => exact (h a).bind fun _ _ => ih

theorem mapM {l : List α} {step : α → Fill β} (h : ∀ a, Keeps (step a)) :
    Keeps (l.mapM step) := by
  induction l with
  | nil => exact pure _
  | cons a l ih =>
    rw [List.mapM_cons]
    exact (h a).bind fun b _ => ih.bind fun bs _ => pure _

end Keeps

theorem keeps_setContent {c : Content} (hc : c.Sound) (id : NodeId) :
    Keeps (setContent id c) := by
  refine .update fun f hf other d hd => ?_
  rw [Array.getElem?_setIfInBounds] at hd
  split at hd
  · split at hd
    · obtain rfl := Option.some.inj (Option.some.inj hd)
      exact hc
    · cases hd
  · exact hf other d hd

theorem keeps_await {c : Content} (hc : c.Sound) (id : NodeId) : Keeps (await id c) := by
  refine (keeps_setContent hc id).bind fun _ _ => ?_
  exact Keeps.bind (.update fun _ hf => hf) fun _ _ => .pure c

theorem gives_lift {α : Type} {r : Outcome α} {a : α} (h : Gives (liftM r : Fill α) a) :
    r = .ok a := by
  obtain ⟨f, g, h⟩ := h
  cases r with
  | error e => cases h
  | ok b => rw [(Prod.mk.inj (Except.ok.inj h)).1]

theorem leafValue_isKey {g : Graph} {id : NodeId} {v : Value} (h : leafValue g id = .ok v) :
    v.isKey = true := by
  unfold leafValue at h
  obtain ⟨points, _, h⟩ := Outcome.bind_eq_ok h
  split at h
  · cases h
  · exact textValue_isKey h

theorem keeps_bring (id : NodeId) : Keeps (bring id) := by
  refine Keeps.read.bind fun f _ => ?_
  split
  · exact .pure _
  · split
    · exact keeps_await (c := .items []) trivial id
    · exact keeps_await (c := .rows []) trivial id
    · exact keeps_await (c := .entries []) List.Pairwise.nil id
    · exact keeps_await (c := .members []) trivial id
    · exact .refuse
    · exact .refuse
    · exact .refuse
    · refine (Keeps.lift _).bind fun v hv => ?_
      have hkey : (Content.leaf v).Sound := leafValue_isKey (gives_lift hv)
      exact (keeps_setContent hkey id).bind fun _ _ => .pure _

theorem keeps_entry (pair : NodeId × NodeId) : Keeps (entry pair) := by
  refine (keeps_bring pair.1).bind fun c _ => ?_
  split
  · exact (keeps_bring pair.2).bind fun _ _ => .pure _
  · exact .refuse

theorem keeps_row (id : NodeId) : Keeps (row id) := by
  refine Keeps.read.bind fun f _ => ?_
  split
  · next key value _ =>
    exact (keeps_bring key).bind fun _ _ => (keeps_bring value).bind fun _ _ => .pure _
  · exact .refuse

theorem keeps_entries (id : NodeId) : Keeps (entries id) := by
  refine Keeps.read.bind fun f _ => (Keeps.lift _).bind fun graph _ => ?_
  refine Keeps.bind (.update fun _ hf => hf) fun _ _ => ?_
  exact (Keeps.mapM keeps_entry).bind fun _ _ => .pure _

theorem gives_bind {α β : Type} {m : Fill α} {next : α → Fill β} {b : β}
    (h : Gives (m >>= next) b) : ∃ a, Gives (next a) b := by
  obtain ⟨f, g, h⟩ := h
  obtain ⟨⟨a, f'⟩, _, hrest⟩ := Outcome.bind_eq_ok (r := m f) h
  exact ⟨a, f', g, hrest⟩

theorem gives_pure {α : Type} {a b : α} (h : Gives (pure a : Fill α) b) : a = b := by
  obtain ⟨f, g, h⟩ := h
  exact (Prod.mk.inj (Except.ok.inj h)).1

theorem entries_distinct {id : NodeId} {es : List Entry} (h : Gives (entries id) es) :
    EntriesDistinct es := by
  obtain ⟨f, h⟩ := gives_bind h
  obtain ⟨graph, h⟩ := gives_bind h
  obtain ⟨_, h⟩ := gives_bind h
  obtain ⟨news, h⟩ := gives_bind h
  rw [← gives_pure h]
  exact EntriesDistinct.foldl_insert List.Pairwise.nil

theorem keeps_fill (id : NodeId) : Keeps (fill id) := by
  refine Keeps.read.bind fun f _ => ?_
  dsimp only
  split
  · refine (Keeps.forM fun item => ?_).bind fun _ _ => keeps_setContent (c := .items _) trivial id
    exact (keeps_bring item).bind fun _ _ => .pure _
  · exact (Keeps.mapM keeps_row).bind fun _ _ => keeps_setContent (c := .rows _) trivial id
  · refine (keeps_entries id).bind fun es hes => ?_
    exact keeps_setContent (c := .entries es) (entries_distinct hes) id
  · exact (keeps_entries id).bind fun _ _ => keeps_setContent (c := .members _) trivial id
  · exact .refuse

theorem keeps_fillAll (fuel : Nat) : Keeps (fillAll fuel) := by
  induction fuel with
  | zero => exact .pure _
  | succ fuel ih =>
    refine Keeps.read.bind fun f _ => ?_
    dsimp only
    split
    · exact .pure _
    · refine Keeps.bind (.update fun _ hf => hf) fun _ _ => ?_
      exact (Keeps.forM keeps_fill).bind fun _ _ => ih

end Filling

/-- Whatever the nodes are, mappings come out of them with each key once. -/
theorem contents_sound {g : Graph} {root : NodeId} {contents : Array (Option Content)}
    (h : g.contents root = .ok contents) : ContentsSound contents := by
  unfold Graph.contents at h
  obtain ⟨⟨_, f⟩, hrun, rfl⟩ := Outcome.map_eq_ok h
  have hkeeps := (Filling.keeps_bring root).bind fun _ _ => Filling.keeps_fillAll (g.size + 1)
  refine hkeeps _ _ f hrun fun id c hc => ?_
  simp [Array.getElem?_replicate] at hc

/-! ## Values of nodes -/

variable {contents : Array (Option Content)} {fuel free : Nat} {id : NodeId}

theorem leafOf_isKey {v : Value} (h : v.isKey = true) : (leafOf v).isKey = true := by
  unfold leafOf
  split
  · rfl
  · exact h

/-- What going through a list with a state gives, if part of each result does not depend on it. -/
theorem map_mapM {α β γ σ : Type} {step : α → StateM σ β} {f : β → γ} {g : α → γ}
    (h : ∀ a s, f (step a s).1 = g a) (l : List α) (s : σ) :
    (l.mapM step s).1.map f = l.map g := by
  induction l generalizing s with
  | nil => rfl
  | cons a l ih =>
    rw [List.mapM_cons, List.map_cons, ← h a s, ← ih (step a s).2]
    rfl

theorem mem_mapM {α β σ : Type} {step : α → StateM σ β} {l : List α} {s : σ} {b : β}
    (h : b ∈ (l.mapM step s).1) : ∃ a t, b = (step a t).1 := by
  induction l generalizing s with
  | nil => cases h
  | cons a l ih =>
    rw [List.mapM_cons] at h
    rcases List.mem_cons.1 h with rfl | h
    · exact ⟨a, s, rfl⟩
    · exact ih h

/-- A map that is taken apart has the keys of its mapping, and values that are taken apart too. -/
theorem unroll_map (hsound : ContentsSound contents) (hfree : free ≠ 0)
    {values : Array (Option Value)} {es : Entries}
    (h : (unroll contents (fuel + 1) free [] id values).1.1 = .map es) :
    ∃ own, contents[id]? = some (some (.entries own)) ∧ es.map (·.1) = own.map (·.key) ∧
      ∀ x ∈ es, ∃ id values, x.2 = (unroll contents fuel (free - 1) [] id values).1.1 := by
  rw [unroll] at h
  -- Nothing is around a node of a level that does not count, so the node is taken apart.
  simp only [hfree, if_false, List.contains_nil, Bool.false_eq_true] at h
  split at h
  · cases h
  · next v hv =>
    have hleaf : leafOf v = .map es := h
    have hkey := leafOf_isKey (hsound id _ (Option.join_eq_some_iff.1 hv))
    rw [hleaf] at hkey
    cases hkey
  · cases h
  · cases h
  · cases h
  · next own hown =>
    let step (e : Entry) : StateM (Array (Option Value)) (Value × Value × Bool) :=
      return (e.key, ← unroll contents fuel (free - 1) [] e.value)
    have hes : es = ((own.mapM step values).1).map fun y => (y.1, y.2.1) := (Value.map.inj h).symm
    subst hes
    refine ⟨own, Option.join_eq_some_iff.1 hown, ?_, fun x hx => ?_⟩
    · rw [List.map_map]
      have hkey (e : Entry) (t : Array (Option Value)) : (step e t).1.1 = e.key := rfl
      exact map_mapM hkey own values
    · obtain ⟨y, hy, rfl⟩ := List.mem_map.1 hx
      obtain ⟨e, t, rfl⟩ := mem_mapM hy
      exact ⟨e.value, t, rfl⟩

/-- The keys of a map that is taken apart are distinct. -/
theorem unroll_distinct (hsound : ContentsSound contents) (hfree : free ≠ 0)
    {values : Array (Option Value)} {es : Entries}
    (h : (unroll contents fuel free [] id values).1.1 = .map es) : es.Distinct := by
  cases fuel with
  | zero => cases h
  | succ fuel =>
    obtain ⟨own, hown, hkeys, _⟩ := unroll_map hsound hfree h
    have hdistinct : EntriesDistinct own := hsound id _ hown
    unfold Entries.Distinct
    rw [hkeys]
    exact hdistinct

/-- A document has each key once, and so has every map right in it. -/
theorem load_distinct {intake : Intake} {es : Entries} (h : load intake = .ok (.map es)) :
    es.Distinct ∧ ∀ x ∈ es, ∀ inner : Entries, x.2 = .map inner → inner.Distinct := by
  unfold load at h
  obtain ⟨⟨root, graph⟩, _, h⟩ := Outcome.bind_eq_ok h
  obtain ⟨contents, hcontents, h⟩ := Outcome.bind_eq_ok h
  have hsound := contents_sound hcontents
  have hvalue := Except.ok.inj h
  refine ⟨unroll_distinct hsound (by decide) hvalue, fun x hx inner hinner => ?_⟩
  obtain ⟨_, _, _, hvalues⟩ := unroll_map hsound (by decide) hvalue
  obtain ⟨id, values, hx⟩ := hvalues x hx
  exact unroll_distinct hsound (by decide) (hx.symm.trans hinner)

end LedStudio.Yaml
