import LedStudio.Action

/-!
# What an action keeps

An action keeps a property if it holds afterwards whenever it held before, also when the action
fails: what it did until then stays done. Where it matters what an action fails with, it meets one
condition when it succeeds and another one when it fails. Two actions agree, by a relation between
their states, if from related states they give the same and leave related states.
-/

namespace LedStudio.Action

variable {σ α β : Type}

theorem andThen_ok {first : Action σ α} {next : α → Action σ β} {s t : σ} {a : α}
    (h : first s = (.ok a, t)) : andThen first next s = next a t := by
  simp only [andThen, h]

theorem andThen_error {first : Action σ α} {next : α → Action σ β} {s t : σ} {f : Fault}
    (h : first s = (.error f, t)) : andThen first next s = (.error f, t) := by
  simp only [andThen, h]

/-- A sequence that succeeds is one that succeeds and then another. -/
theorem andThen_eq_ok {first : Action σ α} {next : α → Action σ β} {s u : σ} {b : β}
    (h : andThen first next s = (.ok b, u)) :
    ∃ a t, first s = (.ok a, t) ∧ next a t = (.ok b, u) := by
  rcases hfirst : first s with ⟨_ | a, t⟩
  · rw [andThen_error hfirst] at h
    cases h
  · rw [andThen_ok hfirst] at h
    exact ⟨a, t, rfl, h⟩

/-- A sequence that fails is one whose first action fails, or one whose first action succeeds and
whose second one fails. -/
theorem andThen_eq_error {first : Action σ α} {next : α → Action σ β} {s u : σ} {f : Fault}
    (h : andThen first next s = (.error f, u)) :
    first s = (.error f, u) ∨ ∃ a t, first s = (.ok a, t) ∧ next a t = (.error f, u) := by
  rcases hfirst : first s with ⟨g | a, t⟩
  · rw [andThen_error hfirst] at h
    cases h
    exact .inl rfl
  · rw [andThen_ok hfirst] at h
    exact .inr ⟨a, t, rfl, h⟩

/-- An action with another value leaves the same state. -/
theorem andThen_pure_snd (a : Action σ α) (f : α → β) (s : σ) :
    (andThen a (fun x => pure (f x)) s).2 = (a s).2 := by
  rcases ha : a s with ⟨_ | x, t⟩
  · rw [andThen_error ha]
  · rw [andThen_ok ha]
    rfl

theorem andThen_pure_eq_ok {a : Action σ α} {f : α → β} {s t : σ} {b : β}
    (h : andThen a (fun x => pure (f x)) s = (.ok b, t)) : ∃ x, a s = (.ok x, t) := by
  obtain ⟨x, u, ha, hu⟩ := andThen_eq_ok h
  have hut : u = t := congrArg Prod.snd hu
  exact ⟨x, hut ▸ ha⟩

theorem bind_assoc {γ : Type} (a : Action σ α) (f : α → Action σ β) (g : β → Action σ γ) :
    a >>= f >>= g = a >>= fun x => f x >>= g := by
  funext s
  show andThen (andThen a f) g s = andThen a (fun x => andThen (f x) g) s
  rcases ha : a s with ⟨_ | x, t⟩
  · rw [andThen_error ha, andThen_error (andThen_error ha)]
  · rw [andThen_ok ha]
    simp only [andThen, ha]

def Keeps (I : σ → Prop) (a : Action σ α) : Prop := ∀ s, I s → I (a s).2

namespace Keeps

variable {I : σ → Prop}

theorem pure (x : α) : Keeps I (Pure.pure x : Action σ α) := fun _ h => h

theorem lift (r : Outcome α) : Keeps I (Action.lift r : Action σ α) := fun _ h => h

theorem modify {f : σ → σ} (h : ∀ s, I s → I (f s)) : Keeps I (Action.modify f) := h

theorem bind {a : Action σ α} {next : α → Action σ β} (ha : Keeps I a)
    (hnext : ∀ x, Keeps I (next x)) : Keeps I (a >>= next) := by
  intro s hs
  have ht := ha s hs
  show I (andThen a next s).2
  rcases h : a s with ⟨_ | x, t⟩
  · rw [andThen_error h]
    rwa [h] at ht
  · rw [andThen_ok h]
    rw [h] at ht
    exact hnext x t ht

theorem attempt {a : Action σ α} (ha : Keeps I a) : Keeps I a.attempt := ha

end Keeps

/-! ## What an action comes to -/

/-- On a state with `I`, the action gives a value and a state that are `done`, or it fails with a
fault and a state that are `failed`. -/
def Meets (I : σ → Prop) (a : Action σ α) (done : α → σ → Prop) (failed : Fault → σ → Prop) :
    Prop :=
  ∀ s, I s →
    match a s with
    | (.ok x, t) => done x t
    | (.error f, t) => failed f t

namespace Meets

variable {I : σ → Prop} {done : α → σ → Prop} {failed : Fault → σ → Prop}

theorem pure {x : α} (h : ∀ s, I s → done x s) : Meets I (Pure.pure x) done failed := h

theorem get : Meets I Action.get (fun x s => x = s ∧ I s) failed := fun _ h => ⟨rfl, h⟩

theorem modify {f : σ → σ} {done : Unit → σ → Prop} (h : ∀ s, I s → done () (f s)) :
    Meets I (Action.modify f) done failed := h

theorem lift {r : Outcome α} (hok : ∀ x, r = .ok x → ∀ s, I s → done x s)
    (herror : ∀ f, r = .error f → ∀ s, I s → failed f s) :
    Meets I (Action.lift r) done failed := by
  intro s hs
  cases r with
  | ok x => exact hok x rfl s hs
  | error f => exact herror f rfl s hs

theorem bind {a : Action σ α} {next : α → Action σ β} {between : α → σ → Prop}
    {done : β → σ → Prop} (ha : Meets I a between failed)
    (hnext : ∀ x, Meets (between x) (next x) done failed) :
    Meets I (a >>= next) done failed := by
  intro s hs
  have hfirst := ha s hs
  show match andThen a next s with
    | (.ok x, t) => done x t
    | (.error f, t) => failed f t
  rcases h : a s with ⟨f | x, t⟩
  · rw [h] at hfirst
    rw [andThen_error h]
    exact hfirst
  · rw [h] at hfirst
    rw [andThen_ok h]
    exact hnext x t hfirst

theorem lift_eq {r : Outcome α} (herror : ∀ f, r = .error f → ∀ s, I s → failed f s) :
    Meets I (Action.lift r) (fun x s => I s ∧ r = .ok x) failed :=
  .lift (fun _ hx _ hs => ⟨hs, hx⟩) herror

/-- A change that keeps what is known. -/
theorem keep {f : σ → σ} (h : ∀ s, I s → I (f s)) :
    Meets I (Action.modify f) (fun _ => I) failed := h

/-- It is enough to look at the states that come up. -/
theorem of_imp {J : σ → Prop} {a : Action σ α} (ha : Meets J a done failed)
    (h : ∀ s, I s → J s) : Meets I a done failed := fun s hs => ha s (h s hs)

/-- What does not hang on the state is assumed once. -/
theorem under {p : Prop} {a : Action σ α} (h : p → Meets I a done failed) :
    Meets (fun s => I s ∧ p) a done failed := fun s hs => h hs.2 s hs.1

/-- An action may be taken to fail in more ways than it does. -/
theorem or_failed {a : Action σ α} {broken : Fault → σ → Prop} (ha : Meets I a done failed)
    (h : ∀ f s, failed f s → broken f s) : Meets I a done broken := by
  intro s hs
  have hout := ha s hs
  rcases hrun : a s with ⟨f | x, t⟩ <;> rw [hrun] at hout
  · exact h f t hout
  · exact hout

/-- What an action keeps it also comes to. -/
theorem of_keeps {a : Action σ α} (ha : Keeps I a) : Meets I a (fun _ => I) (fun _ => I) := by
  intro s hs
  have hkept := ha s hs
  rcases hrun : a s with ⟨f | x, t⟩ <;> rwa [hrun] at hkept

end Meets

/-! ## Two actions side by side -/

variable {τ : Type}

def Agree (R : σ → τ → Prop) (a : Action σ α) (b : Action τ α) : Prop :=
  ∀ s t, R s t → (a s).1 = (b t).1 ∧ R (a s).2 (b t).2

namespace Agree

variable {R : σ → τ → Prop}

theorem pure (x : α) : Agree R (Pure.pure x : Action σ α) (Pure.pure x) := fun _ _ h => ⟨rfl, h⟩

theorem lift (r : Outcome α) : Agree R (Action.lift r) (Action.lift r) := fun _ _ h => ⟨rfl, h⟩

theorem fail (f : Fault) : Agree R (Action.fail f : Action σ α) (Action.fail f) :=
  fun _ _ h => ⟨rfl, h⟩

theorem modify {f : σ → σ} {g : τ → τ} (h : ∀ s t, R s t → R (f s) (g t)) :
    Agree R (Action.modify f) (Action.modify g) := fun s t hst => ⟨rfl, h s t hst⟩

theorem bind {a : Action σ α} {b : Action τ α} {next : α → Action σ β} {more : α → Action τ β}
    (hab : Agree R a b) (hnext : ∀ x, Agree R (next x) (more x)) :
    Agree R (a >>= next) (b >>= more) := by
  intro s t hst
  obtain ⟨hout, hstate⟩ := hab s t hst
  show (andThen a next s).1 = (andThen b more t).1 ∧ R (andThen a next s).2 (andThen b more t).2
  rcases ha : a s with ⟨f | x, s'⟩ <;> rcases hb : b t with ⟨g | y, t'⟩ <;>
    rw [ha, hb] at hout hstate <;> cases hout
  · rw [andThen_error ha, andThen_error hb]
    exact ⟨rfl, hstate⟩
  · rw [andThen_ok ha, andThen_ok hb]
    exact hnext x s' t' hstate

/-- What comes after a look at the states may go by what it saw. -/
theorem get_bind {next : σ → Action σ α} {more : τ → Action τ α}
    (h : ∀ s t, R s t → Agree R (next s) (more t)) :
    Agree R (Action.get >>= next) (Action.get >>= more) := fun s t hst => h s t hst s t hst

theorem attempt {a : Action σ α} {b : Action τ α} (hab : Agree R a b) :
    Agree R a.attempt b.attempt := by
  intro s t hst
  obtain ⟨hout, hstate⟩ := hab s t hst
  exact ⟨congrArg Except.ok hout, hstate⟩

end Agree
end LedStudio.Action
