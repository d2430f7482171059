import LedStudio.Fault

/-!
# Actions

An action works on a state and gives a value or a fault. What it did to the state before a fault
stays done.
-/

namespace LedStudio

/-- A step on a state `σ` that gives a `β` or is refused. -/
def Action (σ β : Type) : Type := σ → Outcome β × σ

namespace Action

variable {σ α β : Type}

/-- Runs one action and then, unless it failed, the next one on the state it left. -/
def andThen (first : Action σ α) (next : α → Action σ β) : Action σ β := fun s =>
  match first s with
  | (.ok a, s) => next a s
  | (.error f, s) => (.error f, s)

instance : Monad (Action σ) where
  pure a := fun s => (.ok a, s)
  bind := andThen

/-- The state. -/
def get : Action σ σ := fun s => (.ok s, s)

/-- Changes the state. -/
def modify (f : σ → σ) : Action σ Unit := fun s => (.ok (), f s)

/-- A value that may be missing, with the reason. -/
def lift (r : Outcome α) : Action σ α := fun s => (r, s)

/-- Fails. -/
def fail (f : Fault) : Action σ α := fun s => (.error f, s)

/-- Runs an action and gives what it gave, faults included. -/
def attempt (a : Action σ α) : Action σ (Outcome α) := fun s => (.ok (a s).1, (a s).2)

end Action
end LedStudio
