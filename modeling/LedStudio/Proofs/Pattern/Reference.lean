import LedStudio.Pattern.Frame
import LedStudio.Proofs.Pattern.Frame
import LedStudio.Proofs.Pattern.Name
import LedStudio.Proofs.Strip
import LedStudio.Sketch.Basic

/-!
# References that cannot be told apart

Whatever is computed from a reference looks at two things: the pattern that it resolves to and, if it
resolves to none, its text. So a reference may be kept in another form, as a session keeps it, or be
given back by its name, as a session reports it, and nothing shows which of them was used.

* `alike_of_resolve` — references that resolve alike, and have the same text if to nothing.
* `alike_normalize`, `alike_named` — the form that is kept of a reference, and its name.
* `computeFrame_unresolved` — what names no pattern is a white strip.
-/

namespace LedStudio
namespace PatternRef

/-- Single LEDs, frames, with the random numbers that they read and what they log, and sketches do
not tell one reference from the other. -/
structure Alike (ref other : PatternRef) : Prop where
  color : ∀ (i frame count : Int) (stream : Stream),
    ledColor ref.resolve i frame count stream = ledColor other.resolve i frame count stream
  frame : ∀ (ledCount : Value) (frame : Int) (brightness : Value) (stream : Stream),
    computeFrame ref ledCount frame brightness stream =
      computeFrame other ledCount frame brightness stream
  sketch : ∀ (ledCount level speed : Value) (wiring : Wiring),
    Sketch.generate ref ledCount level speed wiring =
      Sketch.generate other ledCount level speed wiring
  points : ∀ (ledCount level speed : Value) (wiring : Wiring),
    Sketch.brokenPoints? ref ledCount level speed wiring =
      Sketch.brokenPoints? other ledCount level speed wiring

/-- A reference as it is given back by its name: a text, which keeps its half characters. -/
def named : PatternRef → PatternRef
  | .broken points | .value (.brokenText points) => .broken points
  | ref => .value (.text ref.name)

variable {ref other : PatternRef}

theorem Alike.refl (ref : PatternRef) : Alike ref ref :=
  ⟨fun _ _ _ _ => rfl, fun _ _ _ _ => rfl, fun _ _ _ _ => rfl, fun _ _ _ _ => rfl⟩

theorem Alike.trans {third : PatternRef} (h : Alike ref other) (h' : Alike other third) :
    Alike ref third := by
  constructor
  · intro i frame count stream
    rw [h.color, h'.color]
  · intro ledCount frame brightness stream
    rw [h.frame, h'.frame]
  · intro ledCount level speed wiring
    rw [h.sketch, h'.sketch]
  · intro ledCount level speed wiring
    rw [h.points, h'.points]

/-! ## What is looked at -/

theorem sketchName_eq (hresolve : ref.resolve = other.resolve)
    (hname : ref.resolve = none → ref.name = other.name) : ref.sketchName = other.sketchName := by
  cases h : ref.resolve with
  | some p => simp only [sketchName, ← hresolve, h]
  | none => simp only [sketchName, ← hresolve, h, hname h]

theorem snippet_eq (hresolve : ref.resolve = other.resolve) : ref.snippet = other.snippet := by
  unfold snippet
  rw [hresolve]

theorem tokenValues_eq (hresolve : ref.resolve = other.resolve)
    (hname : ref.resolve = none → ref.name = other.name) (strip : Sketch.Setup)
    (ledPin ledType colorOrder : String) :
    Sketch.tokenValues ref strip ledPin ledType colorOrder =
      Sketch.tokenValues other strip ledPin ledType colorOrder := by
  simp only [Sketch.tokenValues, routineName, sketchName_eq hresolve hname, snippet_eq hresolve]

/-- **References that resolve alike are alike**, if they have the same text where they resolve to
nothing. -/
theorem alike_of_resolve (hresolve : ref.resolve = other.resolve)
    (hname : ref.resolve = none → ref.name = other.name) : Alike ref other := by
  have hvalues := tokenValues_eq hresolve hname
  constructor
  · intro i frame count stream
    rw [hresolve]
  · intro ledCount frame brightness stream
    unfold computeFrame
    cases frameSize ledCount frame with
    | error f => rfl
    | ok count =>
      cases h : ref.resolve with
      | some p => simp only [← hresolve, h]
      | none => simp only [← hresolve, h, hname h]
  · intro ledCount level speed wiring
    unfold Sketch.generate
    simp only [hvalues, sketchName_eq hresolve hname]
  · intro ledCount level speed wiring
    unfold Sketch.brokenPoints? Sketch.codePoints
    simp only [hvalues]

/-! ## The form that is kept -/

/-- What is kept of a reference is its pattern, or its text if it has none. -/
theorem normalize_eq (ref : PatternRef) : ref.normalize =
    match ref.resolve with
    | some p => .id p
    | none => ref.named := by
  cases h : ref.resolve with
  | some p => simp only [normalize, h]
  | none =>
    cases ref with
    | id p => cases h
    | broken points => rfl
    | value v =>
      cases v with
      | brokenText points => rfl
      | _ => simp only [normalize, h, named]

theorem resolve_named (hnone : ref.resolve = none) : ref.named.resolve = none := by
  have hkept := ref.normalize_kept
  rw [normalize_eq, hnone] at hkept
  rcases hkept with ⟨p, hp⟩ | ⟨-, hresolve⟩
  · cases ref with
    | id q => cases hnone
    | broken points => cases hp
    | value v => cases v <;> cases hp
  · exact hresolve

theorem name_named (ref : PatternRef) : ref.named.name = ref.name := by
  cases ref with
  | id p => rfl
  | broken points => rfl
  | value v => cases v <;> rfl

theorem resolve_normalize (ref : PatternRef) : ref.normalize.resolve = ref.resolve := by
  rw [normalize_eq]
  cases h : ref.resolve with
  | some p => rfl
  | none => exact resolve_named h

theorem name_normalize (hnone : ref.resolve = none) : ref.normalize.name = ref.name := by
  rw [normalize_eq, hnone]
  exact ref.name_named

/-- **The form that is kept of a reference** does for the reference. -/
theorem alike_normalize (ref : PatternRef) : Alike ref ref.normalize :=
  alike_of_resolve ref.resolve_normalize.symm fun h => (name_normalize h).symm

theorem normalize_normalize (ref : PatternRef) : ref.normalize.normalize = ref.normalize := by
  rw [normalize_eq ref.normalize, resolve_normalize, normalize_eq ref]
  cases h : ref.resolve with
  | some p => rfl
  | none =>
    cases ref with
    | id p => cases h
    | broken points => rfl
    | value v => cases v <;> rfl

/-! ## Names -/

/-- The name of a pattern names it. -/
theorem ofText?_name (p : PatternId) : PatternId.ofText? p.name = some p := by
  cases p <;> decide +kernel

/-- **The name of a pattern, or of what names none,** does for the reference. -/
theorem alike_named (h : (∃ p, ref = .id p) ∨ ref.IsText ∧ ref.resolve = none) :
    Alike ref ref.named := by
  have hresolve : ref.named.resolve = ref.resolve := by
    rcases h with ⟨p, rfl⟩ | ⟨-, hnone⟩
    · exact ofText?_name p
    · rw [resolve_named hnone, hnone]
  exact alike_of_resolve hresolve.symm fun _ => ref.name_named.symm

end PatternRef

/-! ## The white strip -/

/-- A strip that names no pattern is white at the brightness, and reads no random number. -/
theorem ledsFrom_none (frame count : Int) (brightness : Value) (left : Nat) (i : Int)
    (done : List Color) (stream : Stream) :
    (ledsFrom none frame count brightness left i done stream).2 = stream ∧
    ((ledsFrom none frame count brightness left i done stream).1 =
      if left = 0 then .ok done.reverse
      else (Color.white.withBrightness brightness).map fun c =>
        done.reverse ++ List.replicate left c) := by
  induction left generalizing i done stream with
  | zero => simp [ledsFrom]
  | succ left ih =>
    have hskip : stream.skip (draws none) = stream := rfl
    simp only [ledsFrom, ledColor, paint, hskip, Except.bind]
    cases hwhite : Color.white.withBrightness brightness with
    | error f => simp [Except.map]
    | ok c =>
      obtain ⟨hstream, hleds⟩ := ih (i + 1) (c :: done) stream
      refine ⟨hstream, ?_⟩
      simp only [hleds, hwhite, Except.map]
      by_cases hleft : left = 0
      · simp [hleft]
      · simp [hleft, List.replicate_succ]

/-- **What names no pattern is a white strip**: as many white LEDs as there are, at the brightness
that is given, and no random number is read. -/
theorem computeFrame_unresolved {ref : PatternRef} (h : ref.resolve = none) (ledCount : Value)
    (frame : Int) (brightness : Value) (stream : Stream) :
    (computeFrame ref ledCount frame brightness stream).stream = stream ∧
    (computeFrame ref ledCount frame brightness stream).leds = do
      let count ← frameSize ledCount frame
      let white ← Color.white.withBrightness brightness
      return List.replicate count.toNat white := by
  unfold computeFrame
  cases hsize : frameSize ledCount frame with
  | error f => exact ⟨rfl, rfl⟩
  | ok count =>
    have hpos := frameSize_pos hsize
    obtain ⟨hstream, hleds⟩ := ledsFrom_none frame count brightness count.toNat 0 [] stream
    have hleft : count.toNat ≠ 0 := by omega
    simp only [h, hleds, if_neg hleft]
    refine ⟨hstream, ?_⟩
    cases Color.white.withBrightness brightness <;> rfl

end LedStudio
