import MeterBus.Rate

/-! # Rates and their numbers

A number is one of the four that are rates, and then it is the number of one rate.
-/
namespace MeterBus.Rate
set_option autoImplicit false

theorem ofNumber?_number (rate : Rate) : ofNumber? rate.number = some rate := by
  cases rate <;> rfl

theorem number_inj {rate other : Rate} (same : rate.number = other.number) : rate = other := by
  have known := ofNumber?_number rate
  rw [same, ofNumber?_number] at known
  exact (Option.some.inj known).symm

theorem ofNumber?_eq_some {number : Nat} {rate : Rate} (h : ofNumber? number = some rate) :
    rate.number = number := by
  have found := List.find?_some h
  exact eq_of_beq found

theorem mem_numbers_iff (number : Nat) :
    number ∈ [300, 1200, 2400, 9600] ↔ ∃ rate, ofNumber? number = some rate := by
  constructor
  · intro supported
    simp only [List.mem_cons, List.not_mem_nil, or_false] at supported
    obtain rfl | rfl | rfl | rfl := supported <;> exact ⟨_, rfl⟩
  · rintro ⟨rate, known⟩
    rw [← ofNumber?_eq_some known]
    cases rate <;> decide

theorem ofNumber?_eq_none {number : Nat} (other : number ∉ [300, 1200, 2400, 9600]) :
    ofNumber? number = none := by
  cases known : ofNumber? number with
  | none => rfl
  | some rate => exact absurd ((mem_numbers_iff number).mpr ⟨rate, known⟩) other

end MeterBus.Rate
