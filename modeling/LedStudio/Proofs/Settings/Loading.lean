import Mathlib.Data.List.Forall2
import LedStudio.Proofs.Settings.Readable
import LedStudio.Proofs.Yaml.Keys

/-!
# Loading is all or nothing

* `mainSections_ok` — the main configuration is loaded only as a whole.
* `load_chosen`, `load_refused` — what loading gives is the main configuration or else the factory
  document over the built-in settings, and it is refused only if neither can be had.
* `Chosen.unique` — which of the two it is depends on nothing but what the source holds.
* `reload_all_or_nothing` — settings are replaced as a whole or stay as they were.
* `Reached.readable` — after any number of loads no setting is missing.
-/

namespace LedStudio

/-- What a source reads has each key once, and so has every section in it. -/
def Source.Regular (source : Source) : Prop :=
  ∀ name doc, source.read name = .ok (.map doc) → Settings.Regular doc

/-- Every folder of files is such a source. -/
theorem Folder.source_regular (folder : Folder) : folder.source.Regular := by
  intro name doc h
  obtain ⟨bytes, _, hload⟩ := Outcome.bind_eq_ok (r := folder.bytes name) h
  obtain ⟨hdistinct, hinner⟩ := Yaml.load_distinct hload
  exact .of_mem hdistinct hinner

namespace Settings

variable {source : Source} {main factory name : String} {doc done data own part : Entries}

/-! ## The main configuration -/

/-- What an item of an include list stands for, if it can be included. -/
def Includes (source : Source) (main : String) (item : Value) (part : Entries) : Prop :=
  ∃ name, item = .text name ∧ sections source (Folder.beside main name) = .ok part ∧
    ∃ keys, keyList part = .ok keys

/-- The main configuration as a whole: the main document if it includes nothing, and else all the
documents that it includes, put together in order. -/
inductive Whole (source : Source) (main : String) : Entries → Prop where
  | alone {doc : Entries} (hmain : sections source main = .ok doc)
      (hlist : Entries.field? doc "include" = none) : Whole source main doc
  | including {own : Entries} {list : Value} {items : List Value} {parts : List Entries}
      (hmain : sections source main = .ok own) (hlist : Entries.field? own "include" = some list)
      (hitems : includeItems list = .ok items)
      (hparts : List.Forall₂ (Includes source main) items parts) :
      Whole source main (parts.foldl Entries.merge [])

theorem included_ok {item : Value} :
    (∃ keys, included source main item = .ok (part, keys)) ↔ Includes source main item part := by
  constructor
  · rintro ⟨keys, h⟩
    cases item with
    | text name =>
      obtain ⟨es, hread, h⟩ := Outcome.bind_eq_ok h
      obtain ⟨text, hkeys, h⟩ := Outcome.bind_eq_ok h
      obtain ⟨rfl, rfl⟩ := Prod.mk.inj (Except.ok.inj h)
      exact ⟨name, rfl, hread, text, hkeys⟩
    | _ => cases h
  · rintro ⟨name, rfl, hread, keys, hkeys⟩
    exact ⟨keys, by simp [included, hread, hkeys, bind, Except.bind, pure, Except.pure]⟩

/-- An item that can be included is, and then come the others. -/
theorem includeAll_cons {item : Value} {log : Log} (h : Includes source main item part)
    (rest : List Value) :
    ∃ log', includeAll source main (item :: rest) done log =
      includeAll source main rest (Entries.merge done part) log' := by
  obtain ⟨keys, hitem⟩ := included_ok.2 h
  have hkind : item.kind = .text := by
    obtain ⟨name, rfl, _⟩ := h
    rfl
  refine ⟨log ++ [record .info ("Loaded " ++ item.display) [detail "keys" keys]], ?_⟩
  rw [includeAll, if_pos hkind, hitem]

/-- An item that cannot be included ends it. -/
theorem includeAll_refused {item : Value} {log : Log} (h : ∀ part, ¬Includes source main item part)
    (rest : List Value) :
    (includeAll source main (item :: rest) done log).1 ≠ .ok doc := by
  unfold includeAll
  split
  · split
    · next part keys hitem => exact absurd (included_ok.1 ⟨keys, hitem⟩) (h part)
    · exact fun h => by cases h
  · exact fun h => by cases h

/-- Documents are included only if all of them can be. -/
theorem includeAll_ok {items : List Value} {log : Log} :
    (includeAll source main items done log).1 = .ok doc ↔
      ∃ parts, List.Forall₂ (Includes source main) items parts ∧
        doc = parts.foldl Entries.merge done := by
  -- Each document adds to the log, and nothing that is loaded depends on it.
  induction items generalizing done log with
  | nil =>
    simp only [includeAll, Except.ok.injEq, List.forall₂_nil_left_iff, exists_eq_left,
      List.foldl_nil]
    exact eq_comm
  | cons item rest ih =>
    constructor
    · intro h
      by_cases hitem : ∃ part, Includes source main item part
      · obtain ⟨part, hpart⟩ := hitem
        obtain ⟨log', hstep⟩ := includeAll_cons hpart rest
        rw [hstep, ih] at h
        obtain ⟨parts, hparts, rfl⟩ := h
        exact ⟨part :: parts, .cons hpart hparts, rfl⟩
      · exact absurd h (includeAll_refused (fun part hpart => hitem ⟨part, hpart⟩) rest)
    · rintro ⟨_, _ | ⟨hpart, hparts⟩, rfl⟩
      obtain ⟨log', hstep⟩ := includeAll_cons hpart rest
      rw [hstep]
      exact ih.2 ⟨_, hparts, rfl⟩

/-- The main configuration is loaded as a whole or not at all. -/
theorem mainSections_ok : (mainSections source main).1 = .ok doc ↔ Whole source main doc := by
  constructor
  · intro h
    unfold mainSections at h
    split at h
    · cases h
    · next own hmain =>
      split at h
      · next hlist =>
        obtain rfl := Except.ok.inj h
        exact .alone hmain hlist
      · next list hlist =>
        split at h
        · cases h
        · next items hitems =>
          obtain ⟨parts, hparts, rfl⟩ := includeAll_ok.1 h
          exact .including hmain hlist hitems hparts
  · rintro (⟨hmain, hlist⟩ | ⟨hmain, hlist, hitems, hparts⟩)
    · simp only [mainSections, hmain, hlist]
    · simp only [mainSections, hmain, hlist, hitems]
      exact includeAll_ok.2 ⟨_, hparts, rfl⟩

theorem Whole.unique {other : Entries} (h : Whole source main doc) (h' : Whole source main other) :
    doc = other :=
  Except.ok.inj ((mainSections_ok.2 h).symm.trans (mainSections_ok.2 h'))

/-! ## Distinct keys -/

theorem regular_of_sections (hsource : source.Regular) (h : sections source name = .ok doc) :
    Regular doc := by
  unfold sections at h
  obtain ⟨v, hread, h⟩ := Outcome.bind_eq_ok h
  split at h
  · obtain rfl := Except.ok.inj h
    exact .nil
  · cases v with
    | map es =>
      obtain rfl := Except.ok.inj h
      exact hsource name _ hread
    | _ => cases h

theorem regular_of_includes (hsource : source.Regular) {items : List Value} {parts : List Entries}
    (h : List.Forall₂ (Includes source main) items parts) : ∀ part ∈ parts, Regular part := by
  induction h with
  | nil => exact fun part hpart => by cases hpart
  | cons hfirst _ ih =>
    obtain ⟨name, _, hread, _⟩ := hfirst
    exact List.forall_mem_cons.2 ⟨regular_of_sections hsource hread, ih⟩

theorem Whole.regular (hsource : source.Regular) (h : Whole source main doc) : Regular doc := by
  cases h with
  | alone hmain _ => exact regular_of_sections hsource hmain
  | including _ _ _ hparts => exact Regular.nil.foldl_merge (regular_of_includes hsource hparts)

/-! ## The main configuration or the factory document -/

/-- The document that settings are taken from: the main configuration, if it is there as a whole and
fits, and else the factory document. -/
inductive Chosen (source : Source) (main factory : String) : Entries → Prop where
  | main {doc : Entries} (hmain : Whole source main doc) (hfits : Fits doc) :
      Chosen source main factory doc
  | factory {doc : Entries} (hmain : ∀ doc, Whole source main doc → ¬Fits doc)
      (hfactory : sections source factory = .ok doc) (hfits : Fits doc) :
      Chosen source main factory doc

theorem Chosen.regular (hsource : source.Regular) (h : Chosen source main factory doc) :
    Regular doc := by
  cases h with
  | main hmain _ => exact hmain.regular hsource
  | factory _ hfactory _ => exact regular_of_sections hsource hfactory

/-- What is chosen is determined by what the source holds. -/
theorem Chosen.unique {other : Entries} (h : Chosen source main factory doc)
    (h' : Chosen source main factory other) : doc = other := by
  cases h with
  | main hmain hfits =>
    cases h' with
    | main hmain' _ => exact hmain.unique hmain'
    | factory hnone _ _ => exact absurd hfits (hnone doc hmain)
  | factory hnone hfactory _ =>
    cases h' with
    | main hmain' hfits' => exact absurd hfits' (hnone other hmain')
    | factory _ hfactory' _ => exact Except.ok.inj (hfactory.symm.trans hfactory')

theorem load_main (h : ((mainSections source main).1.bind overBuiltIn) = .ok data) :
    (load source main factory).1 = .ok data := by
  simp only [load, h]

/-- The factory document counts if the main configuration cannot be had. -/
theorem load_factory {f : Fault} (h : (mainSections source main).1.bind overBuiltIn = .error f) :
    (load source main factory).1 =
      (factoryData source factory).mapError fun f =>
        .nothingToLoad (source.path main) (source.path factory) f := by
  simp only [load, h]
  cases factoryData source factory <;> rfl

/-- The main configuration is refused unless it is there as a whole and fits. -/
theorem main_refused (hsource : source.Regular) (h : ∀ doc, Whole source main doc → ¬Fits doc) :
    ∃ f, (mainSections source main).1.bind overBuiltIn = .error f := by
  cases hmain : (mainSections source main).1 with
  | error f => exact ⟨f, rfl⟩
  | ok doc =>
    have hwhole := mainSections_ok.1 hmain
    cases hover : overBuiltIn doc with
    | error f => exact ⟨f, hover⟩
    | ok data =>
      have hdistinct := (hwhole.regular hsource).distinct
      exact absurd ((overBuiltIn_isOk hdistinct).1 ⟨data, hover⟩) (h doc hwhole)

/-- Loading gives the document that is chosen, over the built-in settings. -/
theorem load_chosen (hsource : source.Regular) (h : Chosen source main factory doc) :
    ∃ data, (load source main factory).1 = .ok data ∧ overBuiltIn doc = .ok data := by
  have hregular := h.regular hsource
  cases h with
  | main hmain hfits =>
    obtain ⟨data, hdata⟩ := (overBuiltIn_isOk hregular.distinct).2 hfits
    refine ⟨data, load_main ?_, hdata⟩
    rw [mainSections_ok.2 hmain]
    exact hdata
  | factory hmain hfactory hfits =>
    obtain ⟨f, hf⟩ := main_refused hsource hmain
    obtain ⟨data, hdata⟩ := (overBuiltIn_isOk hregular.distinct).2 hfits
    refine ⟨data, ?_, hdata⟩
    rw [load_factory hf, factoryData, hfactory]
    show Except.mapError _ (overBuiltIn doc) = _
    rw [hdata]
    rfl

/-- Loading is refused if there is nothing to choose. -/
theorem load_refused (hsource : source.Regular) (h : ∀ doc, ¬Chosen source main factory doc) :
    ∃ cause, (load source main factory).1 =
      .error (.nothingToLoad (source.path main) (source.path factory) cause) := by
  have hmain (doc : Entries) (hwhole : Whole source main doc) : ¬Fits doc :=
    fun hfits => h doc (.main hwhole hfits)
  obtain ⟨f, hf⟩ := main_refused hsource hmain
  rw [load_factory hf]
  cases hfactory : factoryData source factory with
  | error cause => exact ⟨cause, rfl⟩
  | ok data =>
    unfold factoryData at hfactory
    cases hread : sections source factory with
    | error f =>
      rw [hread] at hfactory
      cases hfactory
    | ok doc =>
      rw [hread] at hfactory
      have hdistinct := (regular_of_sections hsource hread).distinct
      have hfits := (overBuiltIn_isOk hdistinct).1 ⟨data, hfactory⟩
      exact absurd (.factory hmain hread hfits) (h doc)

/-! ## Settings that are loaded -/

theorem areWritable_iff {vs : List Value} :
    Value.areWritable vs = true ↔ ∀ v ∈ vs, v.isWritable = true := by
  induction vs with
  | nil => simp [Value.areWritable]
  | cons v vs ih => rw [Value.areWritable, Bool.and_eq_true, ih, List.forall_mem_cons]

theorem writable_of_keyList {es : Entries} {text : String} (h : keyList es = .ok text) :
    ∀ e ∈ es, e.1.isWritable = true := by
  unfold keyList Value.written at h
  split at h
  · next hkeys =>
    rw [Value.isWritable, areWritable_iff] at hkeys
    exact fun e he => hkeys e.1 (List.mem_map_of_mem he)
  · cases h

/-- The keys of a map are logged unless an integer among them is too long to be written. -/
theorem keyList_cases (es : Entries) :
    (∃ text, keyList es = .ok text) ∨
      keyList es = .error .unwritableInteger ∧ ∃ e ∈ es, e.1.isWritable = false := by
  unfold keyList Value.written
  split
  · exact .inl ⟨_, rfl⟩
  · next hkeys =>
    rw [Value.isWritable, areWritable_iff] at hkeys
    refine .inr ⟨rfl, ?_⟩
    by_contra hnone
    refine hkeys fun v hv => ?_
    obtain ⟨e, he, rfl⟩ := List.mem_map.1 hv
    by_contra hfalse
    exact hnone ⟨e, he, Bool.eq_false_iff.2 hfalse⟩

theorem builtIn_writable : ∀ e ∈ builtIn, e.1.isWritable = true := by
  simp [builtIn, Value.isWritable]

/-- What is logged of loaded settings can be written unless the document has an integer for a key
that cannot. -/
theorem loadedRecord_cases (h : overBuiltIn doc = .ok data) :
    (∃ r, loadedRecord data = .ok r) ∨
      loadedRecord data = .error .unwritableInteger ∧ ∃ e ∈ doc, e.1.isWritable = false := by
  rcases keyList_cases data with ⟨text, htext⟩ | ⟨herror, e, he, hfalse⟩
  · exact .inl ⟨_, by rw [loadedRecord, htext]; rfl⟩
  · refine .inr ⟨by rw [loadedRecord, herror]; rfl, ?_⟩
    rcases key_of_mergeSections h he with ⟨d, hd, hkey⟩ | ⟨d, hd, hkey⟩
    · have htrue := builtIn_writable d hd
      rw [hkey, hfalse] at htrue
      cases htrue
    · exact ⟨d, hd, by rw [hkey, hfalse]⟩

theorem reload_of_ok {s : Settings} (h : (load source main factory).1 = .ok data) :
    (reload source main factory s).2.1 = ⟨data⟩ ∧
      (reload source main factory s).1 = (loadedRecord data).map fun _ => () := by
  unfold reload
  generalize load source main factory = loaded at h
  obtain ⟨outcome, log⟩ := loaded
  obtain rfl : outcome = .ok data := h
  dsimp only
  cases loadedRecord data <;> exact ⟨rfl, rfl⟩

theorem reload_of_error {s : Settings} {f : Fault} (h : (load source main factory).1 = .error f) :
    (reload source main factory s).2.1 = s ∧ (reload source main factory s).1 = .error f := by
  unfold reload
  generalize load source main factory = loaded at h
  obtain ⟨outcome, log⟩ := loaded
  obtain rfl : outcome = .error f := h
  exact ⟨rfl, rfl⟩

/-- If there is a document to choose, the settings become that document over the built-in ones. -/
theorem reload_chosen (hsource : source.Regular) (s : Settings)
    (hdoc : Chosen source main factory doc) :
    OverBuiltIn doc (reload source main factory s).2.1.data ∧
      ((reload source main factory s).1 = .ok () ∨
        (reload source main factory s).1 = .error .unwritableInteger ∧
          ∃ e ∈ doc, e.1.isWritable = false) := by
  obtain ⟨data, hload, hdata⟩ := load_chosen hsource hdoc
  obtain ⟨hafter, hout⟩ := reload_of_ok (s := s) hload
  rw [hafter, hout]
  refine ⟨overBuiltIn_ok (hdoc.regular hsource) hdata, ?_⟩
  rcases loadedRecord_cases hdata with ⟨r, hr⟩ | ⟨herror, hkey⟩
  · exact .inl (by rw [hr]; rfl)
  · exact .inr ⟨by rw [herror]; rfl, hkey⟩

/-- If there is none, the settings stay as they were. -/
theorem reload_refused (hsource : source.Regular) (s : Settings)
    (h : ∀ doc, ¬Chosen source main factory doc) :
    (∃ cause, (reload source main factory s).1 =
        .error (.nothingToLoad (source.path main) (source.path factory) cause)) ∧
      (reload source main factory s).2.1 = s := by
  obtain ⟨cause, hload⟩ := load_refused hsource h
  obtain ⟨hafter, hout⟩ := reload_of_error (s := s) hload
  exact ⟨⟨cause, hout⟩, hafter⟩

/-- Loading is all or nothing. Either the settings are, key by key, those of the document that is
chosen over the built-in ones, with nothing left from before and no setting missing; or there is no
such document, loading is refused for that, and the settings are what they were. In the first case
it may still be refused, for a key in the document that is too long to be logged. -/
theorem reload_all_or_nothing (hsource : source.Regular) (main factory : String) (s : Settings) :
    (∃ doc, Chosen source main factory doc ∧
        OverBuiltIn doc (reload source main factory s).2.1.data ∧
        Complete (reload source main factory s).2.1.data ∧
        (reload source main factory s).2.1.Readable ∧
        ((reload source main factory s).1 = .ok () ∨
          (reload source main factory s).1 = .error .unwritableInteger ∧
            ∃ e ∈ doc, e.1.isWritable = false)) ∨
      (∀ doc, ¬Chosen source main factory doc) ∧
        (∃ cause, (reload source main factory s).1 =
          .error (.nothingToLoad (source.path main) (source.path factory) cause)) ∧
        (reload source main factory s).2.1 = s := by
  by_cases h : ∃ doc, Chosen source main factory doc
  · obtain ⟨doc, hdoc⟩ := h
    obtain ⟨hover, hout⟩ := reload_chosen hsource s hdoc
    exact .inl ⟨doc, hdoc, hover, hover.complete, readable_of_complete hover.complete, hout⟩
  · have hnone (doc : Entries) : ¬Chosen source main factory doc := fun hdoc => h ⟨doc, hdoc⟩
    exact .inr ⟨hnone, reload_refused hsource s hnone⟩

/-- The main document holds a section that is no map; the factory document stands in. -/
def fallbackFolder : Folder where
  path := "config"
  files :=
    [("config.yaml", "strip: 60\n".toUTF8.toList),
     ("factory.yaml", "strip: \x7bled_count: 7\x7d\n".toUTF8.toList)]

theorem reload_all_or_nothing_fallback :
    (∃ doc, Chosen fallbackFolder.source "config.yaml" "factory.yaml" doc ∧
        OverBuiltIn doc (reload fallbackFolder.source "config.yaml" "factory.yaml" {}).2.1.data) ∧
      (reload fallbackFolder.source "config.yaml" "factory.yaml" {}).1 = .ok () ∧
      ((reload fallbackFolder.source "config.yaml" "factory.yaml" {}).2.1.setting "strip"
        "led_count").toOption.bind Value.number? = some (.int 7) := by
  have hok : (reload fallbackFolder.source "config.yaml" "factory.yaml" {}).1.isOk = true := by
    decide +kernel
  have hcount : ((reload fallbackFolder.source "config.yaml" "factory.yaml" {}).2.1.setting "strip"
      "led_count").toOption.bind Value.number? = some (.int 7) := by
    decide +kernel
  rcases reload_all_or_nothing fallbackFolder.source_regular "config.yaml" "factory.yaml" {} with
    ⟨doc, hdoc, hover, _, _, hout | ⟨hout, _⟩⟩ | ⟨_, ⟨cause, hout⟩, _⟩
  · exact ⟨⟨doc, hdoc, hover⟩, hout, hcount⟩
  · rw [hout] at hok
    cases hok
  · rw [hout] at hok
    cases hok

/-- An integer with too many digits to be written. -/
def overlong : Int := .ofNat (Nat.pow 16 3600 - 1)

/-- A main document with such an integer for a key. -/
def overlongSource : Source where
  read name :=
    if name = "config.yaml" then
      .ok (.map [(.text "strip", .map [(.text "led_count", .int 60)]), (.int overlong, .int 1)])
    else .error (.fileNotFound name)
  path := id

/-- Loading is refused for what is logged of it, with the new settings in place. -/
theorem overlong_key_spoils_load :
    ∃ f, (reload overlongSource "config.yaml" "factory.yaml" {}).1 = .error f ∧
      f.label = "ValueError" ∧
      (reload overlongSource "config.yaml" "factory.yaml" {}).2.1.setting "strip" "led_count" =
        .ok (.int 60) := by
  have hkey : isWritableInt overlong = false := by decide +kernel
  have hload : (load overlongSource "config.yaml" "factory.yaml").1 = .ok
      ((.text "strip", .map
        [(.text "led_count", .int 60), (.text "brightness", .int 100), (.text "speed", .int 50),
         (.text "pattern", .text "rainbow")]) :: (builtIn.tail ++ [(.int overlong, .int 1)])) := rfl
  obtain ⟨hafter, hout⟩ := reload_of_ok (s := {}) hload
  refine ⟨.unwritableInteger, ?_, rfl, ?_⟩
  · rw [hout]
    simp [loadedRecord, keyList, Value.written, builtIn, Value.isWritable, Value.areWritable, hkey,
      Except.map]
  · rw [hafter]
    rfl

/-! ## Any number of loads -/

/-- Settings that are built in, or that loads arrive at one after the other, each from what its
source holds by then. -/
inductive Reached : Settings → Prop where
  | builtIn : Reached {}
  | load {s : Settings} (hs : Reached s) {source : Source} (hsource : source.Regular)
      (main factory : String) : Reached (reload source main factory s).2.1

theorem reload_complete (hsource : source.Regular) {s : Settings} (hs : Complete s.data) :
    Complete (reload source main factory s).2.1.data := by
  by_cases h : ∃ doc, Chosen source main factory doc
  · obtain ⟨doc, hdoc⟩ := h
    exact (reload_chosen hsource s hdoc).1.complete
  · rw [(reload_refused hsource s fun doc hdoc => h ⟨doc, hdoc⟩).2]
    exact hs

theorem Reached.complete {s : Settings} (h : Reached s) : Complete s.data := by
  induction h with
  | builtIn => exact builtIn_complete
  | load _ hsource main factory ih => exact reload_complete hsource ih

/-- However often settings are loaded, and whatever comes of it, no setting is ever missing. -/
theorem Reached.readable {s : Settings} (h : Reached s) : s.Readable :=
  readable_of_complete h.complete

end Settings
end LedStudio
