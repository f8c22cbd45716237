import LoadSeries.Proofs.Command.Output
import LoadSeries.Proofs.Dataset.Validation

/-!
What can still be refused once a data set description is valid: of all the settings of a populator
only a separator for text, and not even that if it has been read from a command line.
-/
namespace LoadSeries

theorem Schema.totalRecords_lt (x : Schema) : x.totalRecords < 0x10000000000000000 :=
  (x.cadenceOf 0 0).totalRecords_lt

theorem Schema.cadence_totalRecords {x : Schema} {cadence : Cadence}
    (found : x.cadence = .ok cadence) : cadence.totalRecords = x.totalRecords := by
  obtain ⟨first, last, samples, -⟩ := cadence_eq_ok found
  rw [Cadence.totalRecords, Schema.totalRecords, first, last, samples]

namespace Populator

variable {x : Populator}

theorem recipe_eq_error_iff (valid : x.schema.validate = .ok ()) {error : PopulateError} :
    x.recipe = .error error ↔ x.mode = .text ∧ Line.isReserved x.separator = true ∧
      error = .encoding (.invalidSeparator x.separator) := by
  constructor
  · intro refused
    by_cases unfit : x.mode = .text ∧ Line.isReserved x.separator = true
    · rw [recipe_of_reserved valid unfit.1 unfit.2] at refused
      exact ⟨unfit.1, unfit.2, (Except.error.inj refused).symm⟩
    · have settled : x.Valid := ⟨valid, fun text => by simp_all [Line.checkSeparator]⟩
      obtain ⟨recipe, made⟩ := settled.exists_recipe
      exact absurd (made.symm.trans refused) (by simp)
  · rintro ⟨text, reserved, rfl⟩
    exact recipe_of_reserved valid text reserved

theorem exists_recipe_of_free (valid : x.schema.validate = .ok ())
    (free : Line.isReserved x.separator = false) : ∃ recipe, x.recipe = .ok recipe := by
  have settled : x.Valid := ⟨valid, fun _ => by simp [Line.checkSeparator, free]⟩
  exact settled.exists_recipe

end Populator

open Command in
/-- A description is valid if and only if it meets all requirements, and else it is refused for the
first that it does not meet. Of one that is valid the cadence and the catalog can be had, they have
the records and the names that the description says, and a populator is refused only because of a
separator for text that no command line lets through. -/
theorem Schema.valid_exactly (x : Schema) :
    (x.validate = .ok () ↔ ∀ requirement ∈ x.requirements, requirement.holds) ∧
      (∀ error, x.validate = .error error ↔ FirstFailure error x.requirements) ∧
      x.totalRecords < 0x10000000000000000 ∧
      (x.validate = .ok () →
        (∃ cadence catalog, x.cadence = .ok cadence ∧ x.catalog = .ok catalog ∧
          cadence.totalRecords = x.totalRecords ∧ catalog.names = x.fields) ∧
        ∀ populator : Populator, populator.schema = x →
          (∀ error, populator.recipe = .error error ↔ populator.mode = .text ∧
            Line.isReserved populator.separator = true ∧
              error = .encoding (.invalidSeparator populator.separator)) ∧
          ∀ words arguments, Arguments.ofWords words = .ok arguments →
            populator.separator = arguments.separator → ∃ recipe, populator.recipe = .ok recipe) ∧
      ∀ words arguments content populator, Arguments.ofWords words = .ok arguments →
        arguments.populator content = .ok populator →
          ∃ recipe, populator.recipe = .ok recipe := by
  have governs := x.requirements_govern
  refine ⟨?_, governs.fails, x.totalRecords_lt, fun valid => ⟨?_, ?_⟩, ?_⟩
  · rw [← governs.passes]
    exact ⟨fun valid => ⟨(), valid⟩, fun ⟨(), valid⟩ => valid⟩
  · obtain ⟨⟨cadence, axis⟩, catalog, named⟩ := Schema.axes_of_validate valid
    exact ⟨cadence, catalog, axis, named, cadence_totalRecords axis, Catalog.ofNames_eq_ok named⟩
  · rintro populator rfl
    refine ⟨fun error => Populator.recipe_eq_error_iff valid, fun words arguments read same => ?_⟩
    exact Populator.exists_recipe_of_free valid (same ▸ Arguments.vetted_of_ofWords read)
  · intro words arguments content populator read built
    obtain ⟨loaded, -, -, separator⟩ := Arguments.settled_of_populator built
    exact Populator.exists_recipe_of_free (Schema.validate_of_ofFile loaded)
      (separator ▸ Arguments.vetted_of_ofWords read)

/-- The small description with faults in its fields and in its tables. -/
def Schema.faulty : Schema :=
  { Populator.small.schema with
    fields := ["voltage", "current", "voltage", "current"]
    tables := { Tables.standard with provinces := [], mpidWidth := 0 } }

theorem Schema.valid_exactly_small :
    (∀ requirement ∈ Populator.small.schema.requirements, requirement.holds) ∧
      FirstFailure (.duplicateField "voltage") faulty.requirements ∧
      (∃ recipe, Populator.small.recipe = .ok recipe) ∧
      { Populator.small with separator := '.' }.recipe =
        .error (.encoding (.invalidSeparator '.')) := by
  have valid : Populator.small.schema.validate = .ok () := by decide +kernel
  obtain ⟨passes, -, -, settles, -⟩ := valid_exactly Populator.small.schema
  obtain ⟨-, fails, -⟩ := valid_exactly faulty
  obtain ⟨-, refuses⟩ := settles valid
  refine ⟨passes.mp valid, (fails _).mp (by decide +kernel), ?_, ?_⟩
  · exact (refuses Populator.small rfl).2 ("populate" :: "file" :: Command.order) _
      Command.ofWords_order rfl
  · exact ((refuses { Populator.small with separator := '.' } rfl).1 _).mpr ⟨rfl, rfl, rfl⟩

end LoadSeries
