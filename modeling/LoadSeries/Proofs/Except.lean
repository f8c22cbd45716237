import Mathlib

/-! When a computation that may fail has a result, and when it fails. -/
namespace LoadSeries

variable {ε ε' α β : Type}

theorem bind_eq_ok_iff {x : Except ε α} {f : α → Except ε β} {b : β} :
    x >>= f = .ok b ↔ ∃ a, x = .ok a ∧ f a = .ok b := by
  cases x with
  | error e => simp [bind, Except.bind]
  | ok a => simp [bind, Except.bind]

theorem pure_eq_ok_iff {a b : α} : (pure a : Except ε α) = .ok b ↔ a = b := by
  simp [pure, Except.pure]

theorem map_eq_ok_iff {x : Except ε α} {f : α → β} {b : β} :
    x.map f = .ok b ↔ ∃ a, x = .ok a ∧ f a = b := by
  cases x with
  | error e => simp [Except.map]
  | ok a => simp [Except.map]

theorem map_eq_error_iff {x : Except ε α} {f : α → β} {e : ε} :
    x.map f = .error e ↔ x = .error e := by
  cases x with
  | error e' => simp [Except.map]
  | ok a => simp [Except.map]

theorem mapError_eq_ok_iff {x : Except ε α} {f : ε → ε'} {a : α} :
    x.mapError f = .ok a ↔ x = .ok a := by
  cases x with
  | error e => simp [Except.mapError]
  | ok b => simp [Except.mapError]

theorem exists_of_isOk {x : Except ε α} (succeeded : x.isOk = true) : ∃ a, x = .ok a := by
  cases x with
  | error e => cases succeeded
  | ok a => exact ⟨a, rfl⟩

theorem exists_error_of_ne_ok {x : Except ε α} (failed : ∀ a, x ≠ .ok a) : ∃ e, x = .error e := by
  cases x with
  | error e => exact ⟨e, rfl⟩
  | ok a => exact absurd rfl (failed a)

section Either

variable {x : Except ε α} {a b : α} {e : ε} {accepts : Prop} {refuses : ε → Prop}
  (accepted : accepts → x = .ok a) (refused : ∀ {e}, refuses e → x = .error e)
  (either : accepts ∨ ∃ e, refuses e)
include accepted refused either

theorem eq_ok_iff_of_either : x = .ok b ↔ accepts ∧ b = a := by
  constructor
  · intro found
    rcases either with here | ⟨e, here⟩
    · rw [accepted here] at found
      exact ⟨here, (Except.ok.inj found).symm⟩
    · rw [refused here] at found
      cases found
  · rintro ⟨here, rfl⟩
    exact accepted here

theorem eq_error_iff_of_either : x = .error e ↔ refuses e := by
  constructor
  · intro failed
    rcases either with here | ⟨e', here⟩
    · rw [accepted here] at failed
      cases failed
    · rw [refused here] at failed
      exact Except.error.inj failed ▸ here
  · exact refused

end Either

end LoadSeries
