import LedStudio.Proofs.Settings.Loading

/-!
# What included documents set

* `include_value` — after documents are included, a built-in section has what the last of them that
  holds it sets, and else what is built in.
* `include_keeps_last` — so a setting is kept if no later document holds the section, and lost if one
  does.
-/

namespace LedStudio.Settings

variable {source : Source} {main factory : String} {doc data own : Entries} {parts : List Entries}
  {name key v : Value}

/-! ## One setting -/

/-- What a section sets a key to. -/
def item? (key : Value) : Value → Option Value
  | .map es => Entries.get? es key
  | _ => none

/-- What a document sets a key of a section to. -/
def value? (doc : Entries) (name key : Value) : Option Value :=
  (Entries.get? doc name).bind (item? key)

theorem value?_of_given {es : Entries} (h : given doc name = some es) :
    value? doc name key = Entries.get? es key := by
  unfold value?
  rcases given_cases h with hmap | ⟨rfl, hnone | hnull⟩
  · rw [hmap]
    rfl
  · rw [hnone]
    rfl
  · rw [hnull]
    rfl

/-- A setting of a built-in section is what the document gives, and else what is built in. -/
theorem OverBuiltIn.value? (h : OverBuiltIn doc data) (hname : (Entries.get? builtIn name).isSome) :
    value? data name key = (value? doc name key).or (value? builtIn name key) := by
  obtain ⟨w, hw⟩ := Option.isSome_iff_exists.1 hname
  obtain ⟨own, rfl⟩ := builtIn_map hw
  obtain ⟨es, m, hes, hm, hkeys⟩ := h.known hw
  rw [value?_of_given hes, Settings.value?, hm, Settings.value?, hw]
  exact hkeys key

/-- Documents that fit are put together to one that fits. -/
theorem fits_foldl_merge (hregular : ∀ p ∈ parts, Regular p) (hfits : ∀ p ∈ parts, Fits p) :
    Fits (parts.foldl Entries.merge []) := by
  intro name hname
  rw [given_isSome]
  intro v hv
  rw [Entries.get?_foldl_merge fun p hp => (hregular p hp).distinct, Entries.get?_nil,
    Option.or_none] at hv
  obtain ⟨p, hp, hpv⟩ := Entries.mem_of_last? hv
  exact given_isSome.1 (hfits p hp name hname) v hpv

/-! ## Loading what is included -/

/-- The main document holds an include list, and these are the documents on it. Each can be
included, and gives every built-in section a map or nothing. -/
structure Included (source : Source) (main : String) (parts : List Entries) : Prop where
  list : ∃ own list items, sections source main = .ok own ∧
    Entries.field? own "include" = some list ∧ includeItems list = .ok items ∧
    List.Forall₂ (Includes source main) items parts
  fits : ∀ part ∈ parts, Fits part

namespace Included

theorem includes (h : Included source main parts) :
    ∀ part ∈ parts, ∃ item, Includes source main item part := by
  obtain ⟨own, list, items, _, _, hitems, hparts⟩ := h.list
  clear h hitems
  induction hparts with
  | nil => exact fun part hpart => by cases hpart
  | cons hfirst _ ih => exact List.forall_mem_cons.2 ⟨⟨_, hfirst⟩, ih⟩

theorem regular (hsource : source.Regular) (h : Included source main parts) :
    ∀ part ∈ parts, Regular part := by
  intro part hpart
  obtain ⟨item, name, _, hread, _⟩ := h.includes part hpart
  exact regular_of_sections hsource hread

theorem chosen (hsource : source.Regular) (h : Included source main parts) (factory : String) :
    Chosen source main factory (parts.foldl Entries.merge []) := by
  obtain ⟨own, list, items, hmain, hlist, hitems, hparts⟩ := h.list
  refine .main (.including hmain hlist hitems hparts) ?_
  exact fits_foldl_merge (h.regular hsource) h.fits

/-- The keys of documents that are included can be written. -/
theorem writable (h : Included source main parts) :
    ∀ e ∈ parts.foldl Entries.merge [], e.1.isWritable = true := by
  intro e he
  rcases Entries.key_of_mem_foldl_merge he with ⟨d, hd, _⟩ | ⟨p, hp, d, hd, hkey⟩
  · cases hd
  · obtain ⟨item, name, _, _, keys, hkeys⟩ := h.includes p hp
    rw [← hkey]
    exact writable_of_keyList hkeys d hd

end Included

/-- Documents that can be included and fit are loaded. -/
theorem include_ok (hsource : source.Regular) (h : Included source main parts) (factory : String)
    (s : Settings) : (reload source main factory s).1 = .ok () := by
  rcases (reload_chosen hsource s (h.chosen hsource factory)).2 with hok | ⟨_, e, he, hfalse⟩
  · exact hok
  · rw [h.writable e he] at hfalse
    cases hfalse

/-- After documents are included, a setting of a built-in section is what the last of them that
holds the section sets, and else what is built in. -/
theorem include_value (hsource : source.Regular) (h : Included source main parts)
    (factory : String) (s : Settings) (hname : (Entries.get? builtIn name).isSome) (key : Value) :
    value? (reload source main factory s).2.1.data name key =
      ((Entries.last? parts name).bind (item? key)).or (value? builtIn name key) := by
  have hover := (reload_chosen hsource s (h.chosen hsource factory)).1
  have hdistinct (p : Entries) (hp : p ∈ parts) : p.Distinct := (h.regular hsource p hp).distinct
  rw [hover.value? hname, value?, Entries.get?_foldl_merge hdistinct, Entries.get?_nil,
    Option.or_none]

/-- What is kept of documents that are included. Loading succeeds. A setting of a built-in section is
what the last document that holds the section sets: it is kept if no later document holds the
section, and a key that none of them sets keeps its default. A later document that holds the section
takes away what earlier ones set in it, and what the main document sets beside its list never
counts. -/
theorem include_keeps_last (hsource : source.Regular) (h : Included source main parts)
    (factory : String) (s : Settings) :
    (reload source main factory s).1 = .ok () ∧
      ∀ name key, (Entries.get? builtIn name).isSome →
        value? (reload source main factory s).2.1.data name key =
            ((Entries.last? parts name).bind (item? key)).or (value? builtIn name key) ∧
          (∀ before part after v, parts = before ++ part :: after →
            value? part name key = some v → (∀ p ∈ after, Entries.get? p name = none) →
              value? (reload source main factory s).2.1.data name key = some v) ∧
          ((∀ part ∈ parts, value? part name key = none) →
            value? (reload source main factory s).2.1.data name key = value? builtIn name key) := by
  refine ⟨include_ok hsource h factory s, fun name key hname => ?_⟩
  have hvalue := include_value hsource h factory s hname key
  refine ⟨hvalue, ?_, ?_⟩
  · intro before part after v hparts hset hafter
    obtain ⟨w, hw, hv⟩ := Option.bind_eq_some_iff.1 hset
    rw [hvalue, hparts, Entries.last?_of_last hafter hw, Option.bind_some, hv]
    rfl
  · intro hunset
    rw [hvalue]
    cases hlast : Entries.last? parts name with
    | none => rfl
    | some w =>
      obtain ⟨p, hp, hw⟩ := Entries.mem_of_last? hlast
      have hnone := hunset p hp
      rw [value?, hw, Option.bind_some] at hnone
      rw [Option.bind_some, hnone]
      rfl

def countPart : Entries := [(.text "strip", .map [(.text "led_count", .int 60)])]

def speedPart : Entries := [(.text "strip", .map [(.text "speed", .int 90)])]

/-- A main document that includes two others; each of these sets one number of the strip. -/
def splitSource : Source where
  read name :=
    if name = "config.yaml" then
      .ok (.map [(.text "include", .list [.text "a.yaml", .text "b.yaml"])])
    else if name = "a.yaml" then .ok (.map countPart)
    else if name = "b.yaml" then .ok (.map speedPart)
    else .error (.fileNotFound name)
  path := id

theorem splitSource_regular : splitSource.Regular := by
  intro name doc h
  simp only [splitSource] at h
  split at h
  · obtain rfl := Value.map.inj (Except.ok.inj h)
    exact .of_mem .singleton (by simp)
  · split at h
    · obtain rfl := Value.map.inj (Except.ok.inj h)
      exact .of_mem .singleton (by simp [countPart, Entries.Distinct.singleton])
    · split at h
      · obtain rfl := Value.map.inj (Except.ok.inj h)
        exact .of_mem .singleton (by simp [speedPart, Entries.Distinct.singleton])
      · cases h

theorem splitSource_included : Included splitSource "config.yaml" [countPart, speedPart] where
  list := by
    have hfirst : Folder.beside "config.yaml" "a.yaml" = "a.yaml" := by decide +kernel
    have hsecond : Folder.beside "config.yaml" "b.yaml" = "b.yaml" := by decide +kernel
    refine ⟨_, _, _, rfl, rfl, rfl, .cons ⟨"a.yaml", rfl, ?_, _, rfl⟩
      (.cons ⟨"b.yaml", rfl, ?_, _, rfl⟩ .nil)⟩
    · rw [hfirst]
      rfl
    · rw [hsecond]
      rfl
  fits := by
    intro part hpart name _
    rw [given_isSome]
    intro v hv
    obtain ⟨key, hmem, _⟩ := Entries.mem_of_get? hv
    simp only [List.mem_cons, List.not_mem_nil, or_false] at hpart
    rcases hpart with rfl | rfl
    · obtain ⟨_, rfl⟩ := Prod.mk.inj (List.mem_singleton.1 hmem)
      exact .inr ⟨_, rfl⟩
    · obtain ⟨_, rfl⟩ := Prod.mk.inj (List.mem_singleton.1 hmem)
      exact .inr ⟨_, rfl⟩

theorem include_keeps_last_speed :
    (reload splitSource "config.yaml" "factory.yaml" {}).1 = .ok () ∧
      value? (reload splitSource "config.yaml" "factory.yaml" {}).2.1.data (.text "strip")
        (.text "speed") = some (.int 90) ∧
      value? (reload splitSource "config.yaml" "factory.yaml" {}).2.1.data (.text "clock")
        (.text "min_interval_ms") = some (.int 1) := by
  obtain ⟨hok, hvalues⟩ :=
    include_keeps_last splitSource_regular splitSource_included "factory.yaml" {}
  refine ⟨hok, ?_, ?_⟩
  · obtain ⟨_, hkept, _⟩ := hvalues (.text "strip") (.text "speed") rfl
    exact hkept [countPart] speedPart [] _ rfl rfl fun p hp => by cases hp
  · obtain ⟨_, _, hdefault⟩ := hvalues (.text "clock") (.text "min_interval_ms") rfl
    have hunset : ∀ part ∈ [countPart, speedPart],
        value? part (.text "clock") (.text "min_interval_ms") = none :=
      List.forall_mem_cons.2 ⟨rfl, List.forall_mem_cons.2 ⟨rfl, fun p hp => by cases hp⟩⟩
    exact hdefault hunset

/-- Only the first of the included documents sets the number of LEDs. It is lost, as the second has
the same section. -/
theorem earlier_setting_is_lost :
    Included splitSource "config.yaml" [countPart, speedPart] ∧
      [countPart, speedPart].map (fun part => value? part (.text "strip") (.text "led_count")) =
        [some (.int 60), none] ∧
      value? (reload splitSource "config.yaml" "factory.yaml" {}).2.1.data (.text "strip")
        (.text "led_count") = some (.int 20) := by
  refine ⟨splitSource_included, rfl, ?_⟩
  rw [include_value splitSource_regular splitSource_included "factory.yaml" {} rfl]
  rfl

end LedStudio.Settings
