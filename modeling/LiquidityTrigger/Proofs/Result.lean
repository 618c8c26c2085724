/-!
# Results of parts

A computation that can fail gives a result through the results of its parts, and to call its faults by
other names changes none of its results.
-/

namespace LiquidityTrigger

variable {ε δ α β : Type}

theorem bind_eq_ok {x : Except ε α} {f : α → Except ε β} {b : β} :
    x >>= f = .ok b ↔ ∃ a, x = .ok a ∧ f a = .ok b := by
  cases x with
  | error fault =>
      constructor
      · intro h
        cases h
      · rintro ⟨a, ha, -⟩
        cases ha
  | ok a =>
      constructor
      · intro h
        exact ⟨a, rfl, h⟩
      · rintro ⟨a', ha, h⟩
        cases ha
        exact h

theorem mapError_eq_ok_iff {result : Except ε α} {f : ε → δ} {a : α} :
    result.mapError f = .ok a ↔ result = .ok a := by
  cases result with
  | ok b =>
      change Except.ok b = Except.ok a ↔ _
      simp only [Except.ok.injEq]
  | error fault =>
      change Except.error (f fault) = Except.ok a ↔ _
      simp only [reduceCtorEq]

theorem exists_of_mapError_eq_error {result : Except ε α} {f : ε → δ} {d : δ}
    (h : result.mapError f = .error d) : ∃ fault, f fault = d := by
  cases result with
  | ok a => cases h
  | error fault => exact ⟨fault, Except.error.inj h⟩

end LiquidityTrigger
