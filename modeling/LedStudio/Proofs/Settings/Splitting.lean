import LedStudio.Proofs.Settings.Loading

/-!
# Sections in one document or in several

* `mergeSections_eq` — what sections are merged to, written out: those that were there stay in their
  places, and behind them come the new ones in the order of the document.
* `overBuiltIn_perm` — so the order of a document's sections shows in the order of the settings, and
  in nothing else.
* `split_loads_alike` — sections that are spread over included documents are loaded like the same
  sections in the main document.
-/

namespace LedStudio

namespace Entries

variable {base more es fs : Entries} {key k v : Value}

/-! ## Where a key goes -/

theorem insert_of_absent (h : es.any (·.1.sameKey key) = false) :
    insert es key v = es ++ [(key, v)] := by
  induction es with
  | nil => rfl
  | cons e es ih =>
    rw [List.any_cons, Bool.or_eq_false_iff] at h
    rw [insert, if_neg (by simp [h.1]), ih h.2, List.cons_append]

/-- A key that is there is set in its place, under the spelling that it has. -/
theorem insert_of_present (hes : Distinct es) (h : es.any (·.1.sameKey key) = true) :
    insert es key v = es.map fun e => if e.1.sameKey key then (e.1, v) else e := by
  induction es with
  | nil => cases h
  | cons e es ih =>
    obtain ⟨hhead, htail⟩ := distinct_cons.1 hes
    rw [insert, List.map_cons]
    by_cases hkey : e.1.sameKey key = true
    · have hothers : ∀ f ∈ es, (if f.1.sameKey key then (f.1, v) else f) = f := by
        intro f hf
        rw [if_neg]
        rw [Value.sameKey_comm, ← Value.sameKey_congr hkey, hhead f hf]
        exact Bool.false_ne_true
      rw [if_pos hkey, if_pos hkey, List.map_congr_left hothers, List.map_id']
    · rw [List.any_cons, Bool.eq_false_iff.2 hkey, Bool.false_or] at h
      rw [if_neg hkey, if_neg hkey, ih htail h]

/-! ## Maps with no key in common -/

/-- Maps that have no key in common are merged by putting one behind the other. -/
theorem merge_of_distinct (h : Distinct (base ++ more)) : merge base more = base ++ more := by
  induction more generalizing base with
  | nil => exact (List.append_nil base).symm
  | cons e more ih =>
    have hnew : base.any (·.1.sameKey e.1) = false := by
      unfold Distinct Value.DistinctKeys at h
      rw [List.map_append, List.pairwise_append] at h
      rw [List.any_eq_false]
      intro f hf
      rw [h.2.2 f.1 (List.mem_map_of_mem hf) e.1 (by simp)]
      exact Bool.false_ne_true
    have hassoc : base ++ e :: more = (base ++ [e]) ++ more := by simp
    rw [merge_cons, insert_of_absent hnew, hassoc]
    exact ih (hassoc ▸ h)

theorem Distinct.left (h : Distinct (base ++ more)) : Distinct base := by
  unfold Distinct Value.DistinctKeys at h ⊢
  rw [List.map_append, List.pairwise_append] at h
  exact h.1

theorem foldl_merge_of_distinct {parts : List Entries} (h : Distinct (base ++ parts.flatten)) :
    parts.foldl merge base = base ++ parts.flatten := by
  induction parts generalizing base with
  | nil => exact (List.append_nil base).symm
  | cons p parts ih =>
    rw [List.flatten_cons, ← List.append_assoc] at h
    rw [List.foldl_cons, merge_of_distinct h.left, ih h, List.flatten_cons, List.append_assoc]

/-! ## Another order -/

theorem Distinct.perm (hes : Distinct es) (h : es.Perm fs) : Distinct fs := by
  have hkeys : (es.map (·.1)).Perm (fs.map (·.1)) := h.map _
  exact hkeys.pairwise hes fun {k l} hkl => by rwa [Value.sameKey_comm]

theorem get?_eq_none (h : ∀ e ∈ es, e.1.sameKey k = false) : get? es k = none := by
  have hfind : es.find? (·.1.sameKey k) = none :=
    List.find?_eq_none.2 fun e he => by rw [h e he]; exact Bool.false_ne_true
  rw [get?, hfind, Option.map_none]

theorem get?_perm (hes : Distinct es) (h : es.Perm fs) : get? es k = get? fs k := by
  have hsub {front back : Entries} (hback : Distinct back) (hperm : front.Perm back) {v : Value}
      (hv : get? front k = some v) : get? back k = some v := by
    obtain ⟨key, hmem, hkey⟩ := mem_of_get? hv
    exact hback.get?_of_mem (hperm.mem_iff.1 hmem) hkey
  refine Option.ext fun v => ⟨hsub (hes.perm h) h, hsub hes h.symm⟩

end Entries

namespace Settings

variable {source : Source} {main factory : String} {names : List String}
  {parts others : List Entries} {doc done data next other : Entries} {part : Entries}
  {name v w : Value} {e : Value × Value}

/-! ## What sections are merged to -/

/-- An entry of the settings, with what a document gives its section over it. -/
def laid (doc : Entries) (e : Value × Value) : Value × Value :=
  (e.1, ((Entries.get? doc e.1).bind fun v =>
    overlay (Entries.get? builtIn e.1).isSome v (some e.2)).getD e.2)

theorem laid_of_none (h : Entries.get? doc name = none) : laid doc (name, v) = (name, v) := by
  rw [laid, h]
  rfl

theorem laid_singleton :
    laid [(name, v)] e = if name.sameKey e.1 then
      (e.1, (overlay (Entries.get? builtIn name).isSome v (some e.2)).getD e.2) else e := by
  unfold laid
  rw [Entries.get?_cons, Entries.get?_nil]
  split
  · next hkey => rw [Entries.get?_congr builtIn hkey, Option.bind_some]
  · rfl

/-- What is laid over an entry by the first section of a document and then by the others. -/
theorem laid_cons (hdoc : Entries.Distinct ((name, v) :: doc)) :
    laid doc (laid [(name, v)] e) = laid ((name, v) :: doc) e := by
  obtain ⟨hhead, -⟩ := Entries.distinct_cons.1 hdoc
  rw [laid_singleton]
  by_cases hkey : name.sameKey e.1 = true
  · have hothers : Entries.get? doc e.1 = none := Entries.get?_apart hhead hkey
    rw [if_pos hkey, laid_of_none hothers]
    simp only [laid, Entries.get?_cons, hkey, if_true, Option.bind_some,
      Entries.get?_congr builtIn hkey]
  · simp only [laid, Entries.get?_cons, hkey, if_false, Bool.false_eq_true]

/-- The settings have every built-in section. -/
def Covers (done : Entries) : Prop :=
  ∀ name, (Entries.get? builtIn name).isSome → done.any (·.1.sameKey name) = true

theorem builtIn_distinct : builtIn.Distinct := by
  simp [builtIn, Entries.Distinct, Value.DistinctKeys, Value.sameKey]

theorem builtIn_covers : Covers builtIn := by
  intro name hname
  obtain ⟨v, hv⟩ := Option.isSome_iff_exists.1 hname
  obtain ⟨key, hmem, hkey⟩ := Entries.mem_of_get? hv
  exact List.any_eq_true.2 ⟨_, hmem, hkey⟩

/-- One section is laid over the entries that are there, and comes behind them if it is new. -/
theorem mergeSection_eq (hdone : done.Distinct) (hcovers : Covers done)
    (h : mergeSection done name v = .ok next) :
    next = done.map (laid [(name, v)]) ++
      if done.any (·.1.sameKey name) then [] else [(name, v)] := by
  -- What is set under the name is, for the entry that is there, what is laid over it.
  have hset {w : Value} (hany : done.any (·.1.sameKey name) = true)
      (hw : ∀ e ∈ done, e.1.sameKey name = true →
        overlay (Entries.get? builtIn name).isSome v (some e.2) = some w) :
      Entries.insert done name w = done.map (laid [(name, v)]) ++
        if done.any (·.1.sameKey name) then [] else [(name, v)] := by
    rw [Entries.insert_of_present hdone hany, if_pos hany, List.append_nil]
    refine List.map_congr_left fun e he => ?_
    rw [laid_singleton, Value.sameKey_comm]
    split
    · next hkey => rw [hw e he (by rwa [Value.sameKey_comm]), Option.getD_some]
    · rfl
  have hfound (e : Value × Value) (he : e ∈ done) (hkey : e.1.sameKey name = true) :
      Entries.get? done name = some e.2 := hdone.get?_of_mem he hkey
  unfold mergeSection at h
  split at h
  · next v _ _ hnone =>
    obtain rfl := Except.ok.inj h
    by_cases hany : done.any (·.1.sameKey name) = true
    · exact hset hany fun e _ _ => by rw [hnone]; rfl
    · have hnew : ∀ e ∈ done, laid [(name, v)] e = e := by
        intro e he
        rw [laid_singleton, if_neg]
        intro hkey
        exact hany (List.any_eq_true.2 ⟨e, he, by rwa [Value.sameKey_comm]⟩)
      rw [Entries.insert_of_absent (Bool.eq_false_iff.2 hany), if_neg hany,
        List.map_congr_left hnew, List.map_id']
  · next own hsome =>
    obtain rfl := Except.ok.inj h
    have hany := hcovers name (by rw [hsome]; rfl)
    have hkept : ∀ e ∈ done, laid [(name, .null)] e = e := by
      intro e _
      rw [laid_singleton, hsome]
      split <;> rfl
    rw [if_pos hany, List.append_nil, List.map_congr_left hkept, List.map_id']
  · next own es hsome =>
    have hany := hcovers name (by rw [hsome]; rfl)
    split at h
    · next old hold =>
      obtain rfl := Except.ok.inj h
      refine hset hany fun e he hkey => ?_
      rw [← hfound e he hkey, hold, hsome]
      rfl
    · next hold =>
      obtain rfl := Except.ok.inj h
      refine hset hany fun e he hkey => ?_
      rw [← hfound e he hkey, hsome]
      exact overlay_map_of_none hold
  · cases h

theorem any_map_laid : (done.map (laid doc)).any (·.1.sameKey name) =
    done.any (·.1.sameKey name) := by
  rw [List.any_map]
  rfl

theorem mergeSection_distinct (hdone : done.Distinct) (h : mergeSection done name v = .ok next) :
    next.Distinct := by
  unfold mergeSection at h
  split at h
  · exact Except.ok.inj h ▸ hdone.insert
  · exact Except.ok.inj h ▸ hdone
  · split at h <;> exact Except.ok.inj h ▸ hdone.insert
  · cases h

/-- After a section is merged, its name is there if it is new, and so are the names before. -/
theorem any_mergeSection (hdone : done.Distinct) (hcovers : Covers done)
    (h : mergeSection done name v = .ok next) (key : Value) :
    next.any (·.1.sameKey key) = (done.any (·.1.sameKey key) ||
      (!done.any (·.1.sameKey name) && name.sameKey key)) := by
  rw [mergeSection_eq hdone hcovers h, List.any_append, any_map_laid]
  split
  · next hthere => simp [hthere]
  · next hnew => simp [Bool.eq_false_iff.2 hnew]

theorem mergeSection_covers (hdone : done.Distinct) (hcovers : Covers done)
    (h : mergeSection done name v = .ok next) : Covers next := by
  intro key hkey
  rw [any_mergeSection hdone hcovers h, hcovers key hkey, Bool.true_or]

/-- Sections are laid over the entries that are there, and the new ones come behind them in the order
of the document. -/
theorem mergeSections_eq (hdone : done.Distinct) (hcovers : Covers done) (hdoc : doc.Distinct)
    (h : mergeSections done doc = .ok data) :
    data = done.map (laid doc) ++ doc.filter fun e => !done.any (·.1.sameKey e.1) := by
  induction doc generalizing done with
  | nil =>
    obtain rfl := Except.ok.inj h
    have hsame : ∀ e ∈ done, laid [] e = e := fun e _ => rfl
    rw [List.filter_nil, List.append_nil, List.map_congr_left hsame, List.map_id']
  | cons first rest ih =>
    obtain ⟨hhead, hrest⟩ := Entries.distinct_cons.1 hdoc
    rw [mergeSections_cons] at h
    cases hfirst : mergeSection done first.1 first.2 with
    | error f =>
      rw [hfirst] at h
      cases h
    | ok next =>
      rw [hfirst] at h
      have hold : next.map (laid rest) = done.map (laid (first :: rest)) ++
          if done.any (·.1.sameKey first.1) then [] else [first] := by
        rw [mergeSection_eq hdone hcovers hfirst, List.map_append, List.map_map]
        congr 1
        · exact List.map_congr_left fun e _ => laid_cons hdoc
        · split
          · rfl
          · rw [List.map_singleton, laid_of_none]
            refine Entries.get?_eq_none fun e he => ?_
            rw [Value.sameKey_comm, hhead e he]
      have hnew : rest.filter (fun e => !next.any (·.1.sameKey e.1)) =
          rest.filter fun e => !done.any (·.1.sameKey e.1) := by
        refine List.filter_congr fun e he => ?_
        rw [any_mergeSection hdone hcovers hfirst, hhead e he, Bool.and_false, Bool.or_false]
      rw [ih (mergeSection_distinct hdone hfirst) (mergeSection_covers hdone hcovers hfirst) hrest h,
        hold, hnew, List.filter_cons, List.append_assoc]
      cases done.any (·.1.sameKey first.1) <;> rfl

/-! ## Another order -/

theorem laid_perm (hdoc : doc.Distinct) (h : doc.Perm other) : laid doc e = laid other e := by
  rw [laid, laid, Entries.get?_perm hdoc h]

/-- A document in another order gives the same settings in another order. -/
theorem overBuiltIn_perm (hdoc : doc.Distinct) (h : doc.Perm other)
    (hdata : overBuiltIn doc = .ok data) (hnext : overBuiltIn other = .ok next) :
    data.Perm next := by
  rw [mergeSections_eq builtIn_distinct builtIn_covers hdoc hdata,
    mergeSections_eq builtIn_distinct builtIn_covers (hdoc.perm h) hnext]
  have hold : builtIn.map (laid doc) = builtIn.map (laid other) :=
    List.map_congr_left fun e _ => laid_perm hdoc h
  rw [hold]
  exact (h.filter _).append_left _

theorem given_perm (hdoc : doc.Distinct) (h : doc.Perm other) : given doc name = given other name := by
  rw [given, given, Entries.get?_perm hdoc h]

theorem Fits.perm (hdoc : doc.Distinct) (h : doc.Perm other) (hfits : Fits doc) : Fits other := by
  intro name hname
  rw [← given_perm hdoc h]
  exact hfits name hname

/-! ## One document or several -/

theorem keyList_ok {es : Entries} (h : ∀ e ∈ es, e.1.isWritable = true) :
    ∃ text, keyList es = .ok text := by
  rcases keyList_cases es with hok | ⟨_, e, he, hfalse⟩
  · exact hok
  · rw [h e he] at hfalse
    cases hfalse

/-- The sections of the document under a name beside the main one. -/
def Reads (source : Source) (main name : String) (part : Entries) : Prop :=
  sections source (Folder.beside main name) = .ok part

theorem includes_text {name : String} : Includes source main (.text name) part ↔
    Reads source main name part ∧ ∀ e ∈ part, e.1.isWritable = true := by
  constructor
  · rintro ⟨_, hname, hread, keys, hkeys⟩
    obtain rfl := Value.text.inj hname
    exact ⟨hread, writable_of_keyList hkeys⟩
  · rintro ⟨hread, hkeys⟩
    exact ⟨name, rfl, hread, keyList_ok hkeys⟩

/-- Of documents that are there, all can be included if all their keys can be written. -/
theorem includes_iff (h : List.Forall₂ (Reads source main) names parts) :
    List.Forall₂ (fun name part => Includes source main (.text name) part) names others ↔
      others = parts ∧ ∀ part ∈ parts, ∀ e ∈ part, e.1.isWritable = true := by
  induction h generalizing others with
  | nil => simp [List.forall₂_nil_left_iff]
  | @cons name part names parts hread _ ih =>
    rw [List.forall₂_cons_left_iff, List.forall_mem_cons]
    constructor
    · rintro ⟨first, rest, hfirst, hrest, rfl⟩
      obtain ⟨hfirst, hkeys⟩ := includes_text.1 hfirst
      obtain rfl := Except.ok.inj (hread.symm.trans hfirst)
      obtain ⟨rfl, hothers⟩ := ih.1 hrest
      exact ⟨rfl, hkeys, hothers⟩
    · rintro ⟨rfl, hkeys, hothers⟩
      exact ⟨part, parts, includes_text.2 ⟨hread, hkeys⟩, ih.2 ⟨rfl, hothers⟩, rfl⟩

/-- The main document is an include list and nothing else. The documents on it hold the sections of
`doc` between them, each section in one place; which ones stand together, and in which order they
come, is open. -/
structure Split (source : Source) (main : String) (names : List String) (parts : List Entries)
    (doc : Entries) : Prop where
  list : source.read main = .ok (.map [(.text "include", .list (names.map .text))])
  reads : List.Forall₂ (Reads source main) names parts
  perm : parts.flatten.Perm doc

namespace Split

variable (h : Split source main names parts doc)
include h

theorem sections_main :
    sections source main = .ok [(.text "include", .list (names.map .text))] := by
  rw [sections, h.list]
  rfl

theorem merge_parts (hdoc : doc.Distinct) : parts.foldl Entries.merge [] = parts.flatten :=
  Entries.foldl_merge_of_distinct (hdoc.perm h.perm.symm)

/-- What the list stands for are the sections of its documents, if their keys can be written. -/
theorem whole_iff (hdoc : doc.Distinct) : Whole source main other ↔
    other = parts.flatten ∧ ∀ e ∈ doc, e.1.isWritable = true := by
  constructor
  · intro hwhole
    cases hwhole with
    | alone hmain hlist =>
      obtain rfl := Except.ok.inj (h.sections_main.symm.trans hmain)
      cases hlist
    | including hmain hlist hitems hothers =>
      obtain rfl := Except.ok.inj (h.sections_main.symm.trans hmain)
      obtain rfl := Option.some.inj hlist
      obtain rfl := Except.ok.inj hitems
      obtain ⟨rfl, hkeys⟩ := (includes_iff h.reads).1 (List.forall₂_map_left_iff.1 hothers)
      refine ⟨h.merge_parts hdoc, fun e he => ?_⟩
      obtain ⟨part, hpart, he⟩ := List.mem_flatten.1 (h.perm.mem_iff.2 he)
      exact hkeys part hpart e he
  · rintro ⟨rfl, hkeys⟩
    have hparts : ∀ part ∈ parts, ∀ e ∈ part, e.1.isWritable = true := fun part hpart e he =>
      hkeys e (h.perm.mem_iff.1 (List.mem_flatten_of_mem hpart he))
    rw [← h.merge_parts hdoc]
    exact .including h.sections_main rfl rfl
      (List.forall₂_map_left_iff.2 ((includes_iff h.reads).2 ⟨rfl, hparts⟩))

end Split

/-! ## Two loads -/

/-- What loading comes to, apart from the log. -/
def loaded (source : Source) (main factory : String) (s : Settings) : Outcome Unit × Settings :=
  ((reload source main factory s).1, (reload source main factory s).2.1)

/-- What two loads come to, where both have the same document and the same one to fall back on. If
the document fits, both give its sections over the built-in ones, up to their order. If not, both
give what they fall back on, or both are refused for it and leave the settings as they were. -/
inductive SameLoad (doc : Entries) (fallback : Outcome Entries) (before : Settings) :
    Outcome Unit × Settings → Outcome Unit × Settings → Prop where
  | main {data other : Entries} (hdata : overBuiltIn doc = .ok data) (hother : data.Perm other) :
      SameLoad doc fallback before (.ok (), ⟨data⟩) (.ok (), ⟨other⟩)
  | factory {data : Entries} {out : Outcome Unit} (hfits : ¬Fits doc)
      (hdata : fallback = .ok data) : SameLoad doc fallback before (out, ⟨data⟩) (out, ⟨data⟩)
  | refused {path path' factory factory' : String} {cause : Fault} (hfits : ¬Fits doc)
      (hcause : fallback = .error cause) :
      SameLoad doc fallback before (.error (.nothingToLoad path factory cause), before)
        (.error (.nothingToLoad path' factory' cause), before)

/-- A document that fits and whose keys can be written is loaded. -/
theorem loaded_main (hsource : source.Regular) (hwhole : Whole source main doc) (hfits : Fits doc)
    (hkeys : ∀ e ∈ doc, e.1.isWritable = true) (factory : String) (s : Settings) :
    ∃ data, loaded source main factory s = (.ok (), ⟨data⟩) ∧ overBuiltIn doc = .ok data := by
  obtain ⟨data, hload, hdata⟩ := load_chosen hsource (.main hwhole hfits : Chosen _ _ factory _)
  obtain ⟨hafter, hout⟩ := reload_of_ok (s := s) hload
  refine ⟨data, ?_, hdata⟩
  rcases loadedRecord_cases hdata with ⟨r, hr⟩ | ⟨_, e, he, hfalse⟩
  · rw [loaded, hafter, hout, hr]
    rfl
  · rw [hkeys e he] at hfalse
    cases hfalse

/-- Without a main configuration that fits, what is loaded is the factory document. -/
theorem loaded_factory (hsource : source.Regular)
    (hmain : ∀ doc, Whole source main doc → ¬Fits doc) (s : Settings) :
    loaded source main factory s =
      match factoryData source factory with
      | .ok data => ((loadedRecord data).map fun _ => (), ⟨data⟩)
      | .error cause =>
        (.error (.nothingToLoad (source.path main) (source.path factory) cause), s) := by
  obtain ⟨f, hf⟩ := main_refused hsource hmain
  have hload : (load source main factory).1 = _ := load_factory hf
  cases hfactory : factoryData source factory with
  | ok data =>
    rw [hfactory] at hload
    obtain ⟨hafter, hout⟩ := reload_of_ok (s := s) hload
    rw [loaded, hafter, hout]
  | error cause =>
    rw [hfactory] at hload
    obtain ⟨hafter, hout⟩ := reload_of_error (s := s) hload
    rw [loaded, hafter, hout]

theorem factoryData_congr {other : Source} (h : other.read factory = source.read factory) :
    factoryData other factory = factoryData source factory := by
  rw [factoryData, factoryData, sections, sections, h]

/-! ## Keys that cannot be written -/

/-- The built-in keys are texts, and so is a key that is the same as one of them. -/
theorem text_of_builtIn_any (h : builtIn.any (·.1.sameKey name) = true) : ∃ s, name = .text s := by
  cases name with
  | text s => exact ⟨s, rfl⟩
  | _ => simp [builtIn, Value.sameKey, Value.exactNumber?] at h

/-- A document that fits but has a key that cannot be written is loaded if it is the main one, and
then the load is refused for what it says of itself. -/
theorem loaded_unwritable (hsource : source.Regular) (hwhole : Whole source main doc)
    (hfits : Fits doc) (he : e ∈ doc) (hkey : e.1.isWritable = false) (factory : String)
    (s : Settings) :
    ∃ data, loaded source main factory s = (.error .unwritableInteger, ⟨data⟩) ∧
      overBuiltIn doc = .ok data := by
  obtain ⟨data, hload, hdata⟩ := load_chosen hsource (.main hwhole hfits : Chosen _ _ factory _)
  obtain ⟨hafter, hout⟩ := reload_of_ok (s := s) hload
  have hmem : e ∈ data := by
    rw [mergeSections_eq builtIn_distinct builtIn_covers (hwhole.regular hsource).distinct hdata]
    refine List.mem_append_right _ (List.mem_filter.2 ⟨he, ?_⟩)
    rw [Bool.not_eq_true', Bool.eq_false_iff]
    intro hany
    obtain ⟨text, htext⟩ := text_of_builtIn_any hany
    rw [htext] at hkey
    cases hkey
  have hrecord : loadedRecord data = .error .unwritableInteger := by
    rcases keyList_cases data with ⟨text, htext⟩ | ⟨herror, _⟩
    · rw [writable_of_keyList htext e hmem] at hkey
      cases hkey
    · rw [loadedRecord, herror]
      rfl
  exact ⟨data, by rw [loaded, hafter, hout, hrecord]; rfl, hdata⟩

/-- Sections that are spread over included documents are loaded like the same sections in the main
document, whatever they are, however they are spread and in whichever order the documents come: the
data are equal up to the order of the sections, or both loads fall back on the factory document, or
both are refused. What is asked for is that the top-level keys of a document that fits can be
written into the log. -/
theorem split_loads_alike {mono split : Source} (hmono : mono.Regular) (hsplit : split.Regular)
    (hdoc : sections mono main = .ok doc) (hplain : Entries.field? doc "include" = none)
    (h : Split split main names parts doc) (hfactory : split.read factory = mono.read factory)
    (hkeys : Fits doc → ∀ e ∈ doc, e.1.isWritable = true) (s : Settings) :
    SameLoad doc (factoryData mono factory) s (loaded mono main factory s)
      (loaded split main factory s) := by
  have halone : Whole mono main doc := .alone hdoc hplain
  have hdistinct := (regular_of_sections hmono hdoc).distinct
  have hparts := hdistinct.perm h.perm.symm
  by_cases hfits : Fits doc
  · have hkeys' : ∀ e ∈ parts.flatten, e.1.isWritable = true :=
      fun e he => hkeys hfits e (h.perm.mem_iff.1 he)
    obtain ⟨data, hout, hdata⟩ := loaded_main hmono halone hfits (hkeys hfits) factory s
    have hwhole := (h.whole_iff hdistinct).2 ⟨rfl, hkeys hfits⟩
    obtain ⟨other, hout', hother⟩ := loaded_main hsplit hwhole
      (hfits.perm hdistinct h.perm.symm) hkeys' factory s
    rw [hout, hout']
    exact .main hdata (overBuiltIn_perm hdistinct h.perm.symm hdata hother)
  · have hmono' : ∀ other, Whole mono main other → ¬Fits other :=
      fun other hother => hother.unique halone ▸ hfits
    have hsplit' : ∀ other, Whole split main other → ¬Fits other := by
      intro other hother hfits'
      obtain ⟨rfl, _⟩ := (h.whole_iff hdistinct).1 hother
      exact hfits (hfits'.perm hparts h.perm)
    rw [loaded_factory hmono hmono', loaded_factory hsplit hsplit', factoryData_congr hfactory]
    cases hdata : factoryData mono factory with
    | ok data => exact .factory hfits rfl
    | error cause => exact .refused hfits rfl

/-- A source of some documents. -/
def documents (docs : List (String × Entries)) : Source where
  read name :=
    match docs.find? (·.1 = name) with
    | some d => .ok (.map d.2)
    | none => .error (.fileNotFound name)
  path := id

theorem documents_regular {docs : List (String × Entries)} (h : ∀ d ∈ docs, Regular d.2) :
    (documents docs).Regular := by
  intro name doc hread
  simp only [documents] at hread
  split at hread
  · next d hd =>
    obtain rfl := Value.map.inj (Except.ok.inj hread)
    exact h d (List.mem_of_find?_eq_some hd)
  · cases hread

def stripSection : Value × Value := (.text "strip", .map [(.text "led_count", .int 60)])

/-- A built-in section and one that is not. -/
def mixedDoc : Entries := [stripSection, (.text "extra", .int 5)]

def mixedSource : Source := documents [("config.yaml", mixedDoc)]

/-- The same sections in two documents, the last one first. -/
def mixedSplitSource : Source :=
  documents
    [("config.yaml", [(.text "include", .list [.text "extra.yaml", .text "strip.yaml"])]),
     ("extra.yaml", [(.text "extra", .int 5)]), ("strip.yaml", [stripSection])]

theorem mixedSource_regular : mixedSource.Regular := by
  refine documents_regular fun d hd => ?_
  obtain rfl := List.mem_singleton.1 hd
  refine .of_mem ?_ ?_
  · simp [mixedDoc, stripSection, Entries.Distinct, Value.DistinctKeys, Value.sameKey]
  · simp [mixedDoc, stripSection, Entries.Distinct.singleton]

theorem mixedSplitSource_regular : mixedSplitSource.Regular := by
  refine documents_regular fun d hd => ?_
  simp only [List.mem_cons, List.not_mem_nil, or_false] at hd
  rcases hd with rfl | rfl | rfl
  · exact .of_mem .singleton (by simp)
  · exact .of_mem .singleton (by simp)
  · exact .of_mem .singleton (by simp [stripSection, Entries.Distinct.singleton])

theorem mixedSplitSource_split : Split mixedSplitSource "config.yaml" ["extra.yaml", "strip.yaml"]
    [[(.text "extra", .int 5)], [stripSection]] mixedDoc where
  list := rfl
  reads := by
    have hfirst : Folder.beside "config.yaml" "extra.yaml" = "extra.yaml" := by decide +kernel
    have hsecond : Folder.beside "config.yaml" "strip.yaml" = "strip.yaml" := by decide +kernel
    refine .cons ?_ (.cons ?_ .nil)
    · rw [Reads, hfirst]
      rfl
    · rw [Reads, hsecond]
      rfl
  perm := .swap _ _ _

theorem split_loads_alike_mixed :
    ∃ data other, data.Perm other ∧
      loaded mixedSource "config.yaml" "factory.yaml" {} = (.ok (), ⟨data⟩) ∧
      loaded mixedSplitSource "config.yaml" "factory.yaml" {} = (.ok (), ⟨other⟩) := by
  have hkeys : ∀ e ∈ mixedDoc, e.1.isWritable = true := by
    simp [mixedDoc, stripSection, Value.isWritable]
  have hfits : Fits mixedDoc := (overBuiltIn_isOk (regular_of_sections mixedSource_regular
    (rfl : sections mixedSource "config.yaml" = .ok mixedDoc)).distinct).1 ⟨_, rfl⟩
  have halike : SameLoad mixedDoc (factoryData mixedSource "factory.yaml") {} _ _ :=
    split_loads_alike mixedSource_regular mixedSplitSource_regular rfl rfl mixedSplitSource_split
      rfl (fun _ => hkeys) {}
  generalize loaded mixedSource "config.yaml" "factory.yaml" {} = first at halike
  generalize loaded mixedSplitSource "config.yaml" "factory.yaml" {} = second at halike
  cases halike with
  | main _ hperm => exact ⟨_, _, hperm, rfl, rfl⟩
  | factory hunfit _ => exact absurd hfits hunfit
  | refused hunfit _ => exact absurd hfits hunfit

/-- A document that fits, with an integer for a key that is too long to be written. -/
def overlongDoc : Entries := [stripSection, (.int overlong, .int 1)]

def factoryDoc : Entries := [(.text "strip", .map [(.text "led_count", .int 7)])]

def overlongAlone : Source := documents [("config.yaml", overlongDoc), ("factory.yaml", factoryDoc)]

/-- The same document, included. -/
def overlongSplit : Source :=
  documents
    [("config.yaml", [(.text "include", .list [.text "a.yaml"])]), ("a.yaml", overlongDoc),
     ("factory.yaml", factoryDoc)]

theorem overlongDoc_regular : Regular overlongDoc := by
  refine .of_mem ?_ ?_
  · simp [overlongDoc, stripSection, Entries.Distinct, Value.DistinctKeys, Value.sameKey,
      Value.exactNumber?]
  · simp [overlongDoc, stripSection, Entries.Distinct.singleton]

theorem factoryDoc_regular : Regular factoryDoc :=
  .of_mem .singleton (by simp [factoryDoc, Entries.Distinct.singleton])

theorem overlongAlone_regular : overlongAlone.Regular := by
  refine documents_regular fun d hd => ?_
  simp only [List.mem_cons, List.not_mem_nil, or_false] at hd
  rcases hd with rfl | rfl
  · exact overlongDoc_regular
  · exact factoryDoc_regular

theorem overlongSplit_regular : overlongSplit.Regular := by
  refine documents_regular fun d hd => ?_
  simp only [List.mem_cons, List.not_mem_nil, or_false] at hd
  rcases hd with rfl | rfl | rfl
  · exact .of_mem .singleton (by simp)
  · exact overlongDoc_regular
  · exact factoryDoc_regular

theorem overlongSplit_split :
    Split overlongSplit "config.yaml" ["a.yaml"] [overlongDoc] overlongDoc where
  list := rfl
  reads := by
    have hbeside : Folder.beside "config.yaml" "a.yaml" = "a.yaml" := by decide +kernel
    refine .cons ?_ .nil
    rw [Reads, hbeside]
    rfl
  perm := .refl _

/-- Where the key can be read but not written, the main document counts if it holds the key itself,
and the factory document does if the key is included: the names of included sections are logged
where a failure leads to falling back, and those of all sections after that. -/
theorem overlong_key_tells_split_apart :
    sections overlongAlone "config.yaml" = .ok overlongDoc ∧
      Entries.field? overlongDoc "include" = none ∧
      Split overlongSplit "config.yaml" ["a.yaml"] [overlongDoc] overlongDoc ∧
      overlongSplit.read "factory.yaml" = overlongAlone.read "factory.yaml" ∧
      (loaded overlongAlone "config.yaml" "factory.yaml" {}).1 = .error .unwritableInteger ∧
      (loaded overlongAlone "config.yaml" "factory.yaml" {}).2.setting "strip" "led_count" =
        .ok (.int 60) ∧
      (loaded overlongSplit "config.yaml" "factory.yaml" {}).1 = .ok () ∧
      (loaded overlongSplit "config.yaml" "factory.yaml" {}).2.setting "strip" "led_count" =
        .ok (.int 7) := by
  have hkey : (Value.int overlong).isWritable = false := by
    rw [Value.isWritable]
    decide +kernel
  have hmem : (Value.int overlong, Value.int 1) ∈ overlongDoc := .tail _ (.head _)
  have hdistinct := overlongDoc_regular.distinct
  have hfits : Fits overlongDoc := (overBuiltIn_isOk hdistinct).1 ⟨_, rfl⟩
  have halone : Whole overlongAlone "config.yaml" overlongDoc := .alone rfl rfl
  obtain ⟨data, hdata, hover⟩ :=
    loaded_unwritable overlongAlone_regular halone hfits hmem hkey "factory.yaml" {}
  obtain rfl := Except.ok.inj hover
  have hnone : ∀ doc, Whole overlongSplit "config.yaml" doc → ¬Fits doc := by
    intro doc hwhole
    have hwritable := ((overlongSplit_split.whole_iff hdistinct).1 hwhole).2 _ hmem
    rw [hkey] at hwritable
    cases hwritable
  refine ⟨rfl, rfl, overlongSplit_split, rfl, ?_⟩
  rw [hdata, loaded_factory overlongSplit_regular hnone]
  exact ⟨rfl, rfl, rfl, rfl⟩

end Settings
end LedStudio
