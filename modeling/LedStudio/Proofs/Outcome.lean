import LedStudio.Fault

/-!
# Outcomes put together

A sequence of operations succeeds if each of them does.
-/

namespace LedStudio.Outcome

variable {α β : Type} {r : Outcome α}

theorem bind_eq_ok {next : α → Outcome β} {b : β} (h : r >>= next = .ok b) :
    ∃ a, r = .ok a ∧ next a = .ok b := by
  cases r with
  | error f => cases h
  | ok a => exact ⟨a, rfl, h⟩

theorem map_eq_ok {g : α → β} {b : β} (h : r.map g = .ok b) : ∃ a, r = .ok a ∧ g a = b := by
  cases r with
  | error f => cases h
  | ok a => exact ⟨a, rfl, Except.ok.inj h⟩

theorem map_eq_error {g : α → β} {f : Fault} (h : r.map g = .error f) : r = .error f := by
  cases r with
  | error other => exact congrArg _ (Except.error.inj h)
  | ok a => cases h

theorem eq_error_of_not_isOk (h : r.isOk = false) : ∃ f, r = .error f := by
  cases r with
  | error f => exact ⟨f, rfl⟩
  | ok a => cases h

theorem eq_ok_of_toOption {a : α} (h : r.toOption = some a) : r = .ok a := by
  cases r with
  | error f => cases h
  | ok b => exact congrArg _ (Option.some.inj h)

end LedStudio.Outcome
