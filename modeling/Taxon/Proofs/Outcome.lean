/-!
Outcomes taken apart: what a computation that may fail did when its result is known.
-/

set_option autoImplicit false

namespace Taxon.Outcome

variable {ε δ α β : Type}

theorem ok_of_map {f : α → β} {outcome : Except ε α} {b : β} (mapped : outcome.map f = .ok b) :
    ∃ a, outcome = .ok a ∧ f a = b := by
  cases outcome with
  | error fault => cases mapped
  | ok a => exact ⟨a, rfl, Except.ok.inj mapped⟩

theorem error_of_map {f : α → β} {outcome : Except ε α} {fault : ε}
    (mapped : outcome.map f = .error fault) : outcome = .error fault := by
  cases outcome with
  | error other => exact congrArg _ (Except.error.inj mapped)
  | ok a => cases mapped

theorem ok_of_map_error {f : ε → δ} {outcome : Except ε α} {a : α}
    (mapped : outcome.mapError f = .ok a) : outcome = .ok a := by
  cases outcome with
  | error fault => cases mapped
  | ok b => exact congrArg _ (Except.ok.inj mapped)

end Taxon.Outcome
