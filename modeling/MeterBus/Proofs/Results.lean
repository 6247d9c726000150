/-! # Results in sequence

A sequence comes to a value if each of its parts does, and it fails with the first part that fails.
-/
namespace MeterBus
set_option autoImplicit false

variable {ε α β : Type} {first : Except ε α} {next : α → Except ε β}

theorem bind_ok {result : β} (h : first >>= next = .ok result) :
    ∃ value, first = .ok value ∧ next value = .ok result := by
  cases first with
  | error fault => exact nomatch h
  | ok value => exact ⟨value, rfl, h⟩

theorem bind_error {fault : ε} (h : first >>= next = .error fault) :
    first = .error fault ∨ ∃ value, first = .ok value ∧ next value = .error fault := by
  cases first with
  | error other => exact Or.inl (congrArg Except.error (Except.error.inj h))
  | ok value => exact Or.inr ⟨value, rfl, h⟩

end MeterBus
