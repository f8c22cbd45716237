import LoadSeries.Dataset.Error
import LoadSeries.Proofs.Except

/-!
Rows of requirements. A check that is governed by such a row passes if and only if all of them hold,
and it fails with the error of the first that does not; so two checks, one after the other, are
governed by the two rows one after the other.
-/
namespace LoadSeries

/-- A condition, and the errors for which it may be found not to hold. -/
structure Requirement where
  holds : Prop
  refusal : ConfigError → Prop

namespace Requirement

/-- A condition that is refused with one error. -/
def of (holds : Prop) (error : ConfigError) : Requirement := ⟨holds, (· = error)⟩

/-- That a computation has a result, which is refused with the error of the computation. -/
def succeeds {α : Type} (x : Except ConfigError α) : Requirement :=
  ⟨∃ a, x = .ok a, fun error => x = .error error⟩

end Requirement

/-- The first requirement of a row that does not hold may be refused with this error. -/
inductive FirstFailure (error : ConfigError) : List Requirement → Prop
  | here {first : Requirement} {rest : List Requirement} (fails : ¬ first.holds)
      (refused : first.refusal error) : FirstFailure error (first :: rest)
  | later {first : Requirement} {rest : List Requirement} (holds : first.holds)
      (failure : FirstFailure error rest) : FirstFailure error (first :: rest)

section FirstFailure

variable {first : Requirement} {row rest : List Requirement} {error : ConfigError}

theorem not_firstFailure_nil : ¬ FirstFailure error [] := nofun

theorem firstFailure_cons : FirstFailure error (first :: row) ↔
    ¬ first.holds ∧ first.refusal error ∨ first.holds ∧ FirstFailure error row := by
  constructor
  · rintro (⟨fails, refused⟩ | ⟨holds, failure⟩)
    · exact .inl ⟨fails, refused⟩
    · exact .inr ⟨holds, failure⟩
  · rintro (⟨fails, refused⟩ | ⟨holds, failure⟩)
    · exact .here fails refused
    · exact .later holds failure

theorem firstFailure_append : FirstFailure error (row ++ rest) ↔ FirstFailure error row ∨
    (∀ requirement ∈ row, requirement.holds) ∧ FirstFailure error rest := by
  induction row with
  | nil => simp [not_firstFailure_nil]
  | cons first row ih =>
    rw [List.cons_append, firstFailure_cons, firstFailure_cons, ih, List.forall_mem_cons]
    tauto

end FirstFailure

/-- The check passes if and only if all requirements hold, and else it fails as the first of them
that does not. -/
structure Governs {α : Type} (row : List Requirement) (x : Except ConfigError α) : Prop where
  passes : (∃ a, x = .ok a) ↔ ∀ requirement ∈ row, requirement.holds
  fails : ∀ error, x = .error error ↔ FirstFailure error row

section Governs

variable {α β : Type} {row rest : List Requirement} {x : Except ConfigError α}

theorem governs_ok (a : α) : Governs [] (.ok a) where
  passes := by simp
  fails error := by simp [not_firstFailure_nil]

theorem governs_single {requirement : Requirement} (passes : (∃ a, x = .ok a) ↔ requirement.holds)
    (fails : ∀ error, x = .error error ↔ ¬ requirement.holds ∧ requirement.refusal error) :
    Governs [requirement] x where
  passes := by rw [passes, List.forall_mem_singleton]
  fails error := by
    rw [fails, firstFailure_cons]
    simp only [not_firstFailure_nil, and_false, or_false]

theorem governs_succeeds (x : Except ConfigError α) : Governs [.succeeds x] x := by
  refine governs_single Iff.rfl fun error => ?_
  cases x <;> simp [Requirement.succeeds]

/-- A condition in front of a check, whose opposite is refused with an error. -/
theorem Governs.guarded {holds opposite : Prop} [Decidable opposite] {error : ConfigError}
    (same : opposite ↔ ¬ holds) (governs : holds → Governs row x) :
    Governs (.of holds error :: row) (if opposite then .error error else x) := by
  by_cases here : holds
  · have onward := governs here
    rw [if_neg (by rwa [same, not_not])]
    refine ⟨?_, fun e => ?_⟩
    · rw [onward.passes, List.forall_mem_cons, Requirement.of, and_iff_right here]
    · rw [onward.fails, firstFailure_cons, Requirement.of]
      simp only [here, not_true, false_and, true_and, false_or]
  · rw [if_pos (same.mpr here)]
    refine ⟨?_, fun e => ?_⟩
    · simp [Requirement.of, here]
    · rw [firstFailure_cons, Requirement.of]
      simp [here, eq_comm]

theorem Governs.bind {f : α → Except ConfigError β} (governs : Governs row x)
    (onward : ∀ a, x = .ok a → Governs rest (f a)) : Governs (row ++ rest) (x >>= f) := by
  cases checked : x with
  | ok a =>
    have holds := governs.passes.mp ⟨a, checked⟩
    have none : ∀ e, ¬ FirstFailure e row := fun e failure => by
      rw [← governs.fails, checked] at failure
      cases failure
    refine ⟨?_, fun e => ?_⟩
    · rw [List.forall_mem_append, and_iff_right holds]
      exact (onward a checked).passes
    · rw [firstFailure_append, and_iff_right holds, or_iff_right (none e)]
      exact (onward a checked).fails e
  | error e =>
    have fails : ¬ ∀ requirement ∈ row, requirement.holds := fun holds => by
      obtain ⟨a, found⟩ := governs.passes.mpr holds
      exact absurd (found.symm.trans checked) (by simp)
    refine ⟨?_, fun e' => ?_⟩
    · rw [List.forall_mem_append]
      constructor
      · rintro ⟨b, found⟩
        cases found
      · rintro ⟨holds, -⟩
        exact absurd holds fails
    · rw [firstFailure_append, ← governs.fails, checked]
      simp [fails, Bind.bind, Except.bind]

theorem Governs.cons_of_holds {first : Requirement} (holds : first.holds)
    (governs : Governs row x) : Governs (first :: row) x where
  passes := by rw [governs.passes, List.forall_mem_cons, and_iff_right holds]
  fails error := by
    rw [governs.fails, firstFailure_cons]
    simp only [holds, not_true, false_and, true_and, false_or]

theorem governs_error {first : Requirement} {error : ConfigError} (fails : ¬ first.holds)
    (refused : ∀ e, first.refusal e ↔ e = error) :
    Governs (first :: row) (.error error : Except ConfigError α) where
  passes := by simp [fails]
  fails e := by
    rw [firstFailure_cons, refused]
    simp [fails, eq_comm]

/-- A requirement that is known to hold need not be listed. -/
theorem Governs.drop (before : List Requirement) {after : List Requirement}
    {requirement : Requirement}
    (governs : Governs (before ++ requirement :: after) x) (holds : requirement.holds) :
    Governs (before ++ after) x where
  passes := by
    rw [governs.passes]
    simp only [List.forall_mem_append, List.forall_mem_cons, holds, true_and]
  fails error := by
    rw [governs.fails, firstFailure_append, firstFailure_append, firstFailure_cons]
    simp only [holds, not_true, false_and, true_and, false_or]

theorem Governs.map {f : α → β} (governs : Governs row x) : Governs row (x.map f) where
  passes := by
    rw [← governs.passes]
    cases x <;> simp [Except.map]
  fails error := by rw [map_eq_error_iff, governs.fails]

end Governs

end LoadSeries
