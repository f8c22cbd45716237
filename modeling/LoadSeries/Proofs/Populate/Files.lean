import LoadSeries.Populate.Destination
import LoadSeries.Proofs.Pipeline.Schedule
import LoadSeries.Proofs.Populate.Verdict
import LoadSeries.Proofs.Sink.Limit

/-!
What a populator leaves in a file. A setting that is refused leaves all files as they were. Once the
settings are settled the file is emptied, and whatever becomes of the run, the file holds in the end
the records that the sink took, each with its ending, and nothing of what it held before.
-/
namespace LoadSeries
open Text

namespace Directory

variable {paths : Paths} {x : Directory paths} {key : String} {content : Bytes}

/-- The second directory has a file of this content, and is else like the first. -/
structure Replaces (before after : Directory paths) (key : String) (content : Bytes) : Prop where
  content : after.files.lookup key = some content
  others : ∀ other, other ≠ key → after.files.lookup other = before.files.lookup other

theorem lookup_filter_of_ne {files : List (String × Bytes)} {other : String}
    (apart : other ≠ key) :
    (files.filter fun file => file.1 ≠ key).lookup other = files.lookup other := by
  induction files with
  | nil => rfl
  | cons file rest ih =>
    by_cases same : file.1 = key
    · have passed : (other == file.1) = false := by simpa [same] using apart
      rw [List.filter_cons_of_neg (by simpa using same), ih, List.lookup_cons, passed]
    · rw [List.filter_cons_of_pos (by simpa using same), List.lookup_cons, List.lookup_cons, ih]

theorem put_replaces : x.Replaces (x.put key content) key content where
  content := by simp [put]
  others other apart := by
    have passed : (other == key) = false := by simpa using apart
    rw [put, List.lookup_cons, passed]
    exact lookup_filter_of_ne apart

end Directory

namespace Populator

variable {paths : Paths} {x : Populator} {recipe : Recipe} {cancelled : Bool}
  {directory left : Directory paths} {key : String}
  {result : Option (Except PopulateError PopulateMetrics)} {taken : List Bytes}

/-- A run to a file, by any schedule and cancelled at any time or never, with its result, the
records that the sink took and the directory that is left. Without a queue it breaks off. -/
inductive Saves (x : Populator) (cancelled : Bool) (directory : Directory paths) (key : String) :
    Option (Except PopulateError PopulateMetrics) → List Bytes → Directory paths → Prop
  | refused {error : PopulateError} (settled : x.recipe = .error error) :
      Saves x cancelled directory key (some (.error error)) [] directory
  | streamed {recipe : Recipe} {events : List Event} {report : Report Storage}
      (settled : x.recipe = .ok recipe)
      (reports : Pipeline.Reports ⟨x.config, .idle, cancelled⟩ Generator.source (.ofRecipe recipe)
        x.writer.sink .empty events report) :
      Saves x cancelled directory key
        (some ((report.result.mapError .pipeline).map (.ofProgress · recipe.catalog.size)))
        (acceptedRecords events) (directory.put key report.sink.bytes)
  | broken {recipe : Recipe} (settled : x.recipe = .ok recipe)
      (queueless : x.config.hasQueue = false) :
      Saves x cancelled directory key none [] (directory.put key [])

theorem Follows.exists_run {τ : Type} (follows : x.Follows recipe)
    (queue : x.config.hasQueue = true) (cancelled : Bool) (sink : Sink τ) (into : τ) :
    ∃ report, Pipeline.run ⟨x.config, .idle, cancelled⟩ (enoughSteps recipe.cadence.totalRecords)
      Generator.source (.ofRecipe recipe) sink into = some report := by
  refine Pipeline.exists_run (n := recipe.cadence.totalRecords) rfl queue ?_ ?_
  · intro records rest gives
    rw [← Recipe.generatorAt_zero] at gives
    have bound := (Recipe.gives_generatorAt follows.accepted (Nat.zero_le _) gives).1
    rwa [Nat.zero_add] at bound
  · rw [enoughSteps]
    omega

theorem populateFile_of_run {report : Report Storage} (settled : x.recipe = .ok recipe)
    (ran : Pipeline.run ⟨x.config, .idle, cancelled⟩ (enoughSteps recipe.cadence.totalRecords)
      Generator.source (.ofRecipe recipe) x.writer.sink .empty = some report) :
    x.populateFile cancelled directory key =
      (some ((report.result.mapError .pipeline).map (.ofProgress · recipe.catalog.size)),
        directory.put key report.sink.bytes) := by
  simp only [populateFile, settled, stream, ran, Option.map_some]

/-- The schedule that is carried out is one of them; the steps that it is given are enough. -/
theorem populateFile_saves (x : Populator) (cancelled : Bool) (directory : Directory paths)
    (key : String) : ∃ taken, x.Saves cancelled directory key
      (x.populateFile cancelled directory key).1 taken
      (x.populateFile cancelled directory key).2 := by
  cases settled : x.recipe with
  | error error =>
    have same : x.populateFile cancelled directory key = (some (.error error), directory) := by
      simp only [populateFile, settled]
    rw [same]
    exact ⟨[], .refused settled⟩
  | ok recipe =>
    cases queue : x.config.hasQueue with
    | false =>
      have same : x.populateFile cancelled directory key = (none, directory.put key []) := by
        simp [populateFile, settled, stream, Pipeline.run, queue]
      rw [same]
      exact ⟨[], .broken settled queue⟩
    | true =>
      obtain ⟨report, ran⟩ :=
        (follows_of_recipe settled).exists_run queue cancelled x.writer.sink .empty
      obtain ⟨events, reports⟩ := Pipeline.run_reports ran
      rw [populateFile_of_run settled ran]
      exact ⟨acceptedRecords events, .streamed settled reports⟩

theorem Saves.put (settled : x.recipe = .ok recipe)
    (saved : x.Saves cancelled directory key result taken left) :
    left = directory.put key (x.writer.terminated taken) := by
  cases saved with
  | refused found => simp [settled] at found
  | streamed _ reports =>
    cases reports with
    | refused started => exact absurd rfl started
    | returned _ _ run _ =>
      have stored := (Writer.stored_of_unlimited (Setup.run_answers run)).1
      simp only [acceptedRecords, Event.acceptedWrites_sinkCalls] at stored
      exact congrArg _ stored
  | broken => rfl

/-- A separator is checked where it is needed, before anything is written. -/
theorem recipe_of_reserved (valid : x.schema.validate = .ok ()) (text : x.mode = .text)
    (reserved : Line.isReserved x.separator = true) :
    x.recipe = .error (.encoding (.invalidSeparator x.separator)) := by
  obtain ⟨⟨cadence, axis⟩, catalog, named⟩ := Schema.axes_of_validate valid
  simp only [recipe, axis, named, text, Encoder.ofMode, Line.checkSeparator, reserved, if_true]
  rfl

end Populator

end LoadSeries
