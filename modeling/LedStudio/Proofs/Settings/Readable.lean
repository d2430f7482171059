import LedStudio.Proofs.Settings.Merging

/-!
# No setting is missing

* `setting_ok` — a built-in key of a built-in section is found in settings that are complete.
* `readable_of_complete` — so what is read by name may be refused for what it is, and never because
  it is not there.
-/

namespace LedStudio

/-- The fault says that a section or a key is not there. -/
def Fault.isMissing : Fault → Bool
  | missingKey _ | notKeyed _ => true
  | _ => false

/-- If it is refused, that is not because something is missing. -/
def Finds {α : Type} (r : Outcome α) : Prop := ∀ f, r = .error f → f.isMissing = false

namespace Finds

variable {α β : Type} {r : Outcome α}

theorem ok (a : α) : Finds (.ok a : Outcome α) := fun _ h => by cases h

theorem error {f : Fault} (h : f.isMissing = false) : Finds (.error f : Outcome α) :=
  fun _ hf => Except.error.inj hf ▸ h

theorem bind {next : α → Outcome β} (hr : Finds r) (hnext : ∀ a, Finds (next a)) :
    Finds (r >>= next) := by
  cases r with
  | error f => exact error (hr f rfl)
  | ok a => exact hnext a

theorem map {g : α → β} (hr : Finds r) : Finds (r.map g) := by
  cases r with
  | error f => exact error (hr f rfl)
  | ok a => exact ok (g a)

theorem pure (a : α) : Finds (Pure.pure a : Outcome α) := ok a

end Finds

/-! ## Conversions -/

theorem finds_written (v : Value) : Finds v.written := by
  unfold Value.written
  split
  · exact .ok _
  · exact .error rfl

theorem finds_integerPart (x : Double) : Finds x.integerPart := by
  cases x with
  | finite q => exact .ok _
  | negZero => exact .ok 0
  | infinite negative => exact .error rfl
  | nan => exact .error rfl

theorem finds_spelling (base : Nat) (spelled : Value) (spelling : Numeral.Spelling) :
    Finds (spelling.toInt base spelled) := by
  cases spelling with
  | integer n => exact .ok n
  | overlong digits => exact .error rfl
  | malformed => exact .error rfl

theorem finds_toInt (v : Value) : Finds v.toInt := by
  cases v with
  | bool b => exact .ok _
  | int n => exact .ok n
  | float x => exact finds_integerPart x
  | text s => exact finds_spelling 10 _ _
  | brokenText points => exact finds_spelling 10 _ _
  | bytes b => exact finds_spelling 10 _ _
  | _ => exact .error rfl

theorem finds_settingInt (name : String) (v : Value) : Finds (settingInt name v) := by
  cases v with
  | int n => exact .ok n
  | float x => exact finds_integerPart x
  | _ => exact .error rfl

theorem finds_clampLedCount (v : Value) : Finds (clampLedCount v) := by
  refine (finds_settingInt "led_count" v).bind fun n => ?_
  dsimp only
  split
  · refine Finds.bind (.error ?_) fun _ => .pure _
    split <;> rfl
  · exact .pure _

theorem finds_checked (count brightness speed : Value) :
    Finds (StripConfig.checked count brightness speed) := by
  unfold StripConfig.checked
  split
  · exact .error rfl
  · split
    · exact .error rfl
    · exact .ok _

theorem finds_clamped (count brightness speed : Value) :
    Finds (StripConfig.clamped count brightness speed) := by
  refine (finds_clampLedCount count).bind fun n => ?_
  refine (finds_settingInt "brightness" brightness).map.bind fun b => ?_
  exact (finds_settingInt "speed" speed).map.bind fun k => finds_checked _ _ _

namespace Settings

variable {s : Settings}

theorem finds_asText (v : Value) : Finds (asText v) := by
  unfold asText
  split
  · exact .ok _
  · exact (finds_written v).map

/-! ## Reading by name -/

/-- Whatever is read by name, it is not refused because something is missing. -/
structure Readable (s : Settings) : Prop where
  strip : Finds s.strip
  pattern : Finds s.pattern
  wiring : Finds s.wiring
  minInterval : Finds s.minInterval
  host : Finds s.host
  port : Finds s.port
  logLevel : Finds s.logLevel
  colors : Finds s.colors

/-- A built-in key of a built-in section. -/
def IsBuiltIn (area key : String) : Prop :=
  ∃ own, Entries.field? builtIn area = some (.map own) ∧ (Entries.field? own key).isSome

/-- Complete settings have every built-in key. -/
theorem setting_ok {area key : String} (h : Complete s.data) (hkey : IsBuiltIn area key) :
    ∃ v, s.setting area key = .ok v := by
  obtain ⟨own, hown, hkey⟩ := hkey
  obtain ⟨m, hm, hkeys⟩ := h _ own hown
  obtain ⟨v, hv⟩ := Option.isSome_iff_exists.1 (hkeys _ hkey)
  refine ⟨v, ?_⟩
  have harea : item area (.map s.data) = .ok (.map m) := by
    simp only [item, Entries.field?, hm]
  rw [setting, harea]
  show item key (.map m) = .ok v
  simp only [item, Entries.field?, hv]

theorem finds_setting {area key : String} (h : Complete s.data) (hkey : IsBuiltIn area key) :
    Finds (s.setting area key) := by
  obtain ⟨v, hv⟩ := setting_ok h hkey
  rw [hv]
  exact .ok v

theorem readable_of_complete (h : Complete s.data) : s.Readable where
  strip := by
    refine (finds_setting h ⟨_, rfl, rfl⟩).bind fun count => ?_
    refine (finds_setting h ⟨_, rfl, rfl⟩).bind fun brightness => ?_
    refine (finds_setting h ⟨_, rfl, rfl⟩).bind fun speed => ?_
    exact finds_clamped count brightness speed
  pattern := by
    refine (finds_setting h ⟨_, rfl, rfl⟩).bind fun v => (finds_written v).bind fun name => ?_
    split <;> exact .pure _
  wiring := by
    refine (finds_setting h ⟨_, rfl, rfl⟩).bind fun pin => (finds_toInt pin).bind fun n => ?_
    refine (finds_setting h ⟨_, rfl, rfl⟩).bind fun type => (finds_asText type).bind fun _ => ?_
    refine (finds_setting h ⟨_, rfl, rfl⟩).bind fun order => (finds_asText order).bind fun _ => ?_
    exact .pure _
  minInterval := (finds_setting h ⟨_, rfl, rfl⟩).bind finds_toInt
  host := (finds_setting h ⟨_, rfl, rfl⟩).bind finds_written
  port := (finds_setting h ⟨_, rfl, rfl⟩).bind finds_toInt
  logLevel := by
    refine (finds_setting h ⟨_, rfl, rfl⟩).bind fun v => (finds_written v).bind fun name => ?_
    exact .pure _
  colors := (finds_setting h ⟨_, rfl, rfl⟩).map

end Settings
end LedStudio
