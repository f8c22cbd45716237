import LoadSeries.Proofs.Pipeline.Drain
import LoadSeries.Proofs.Populate.Files
import LoadSeries.Proofs.Sink.Buffer

/-!
One data set to several targets. What a successful run delivers does not depend on where it is
written, on buffers or on the schedule, and if one run has succeeded then so does every other that
is not cancelled. The recipe is all that a run has of a description, and no recipe holds the seed
that stands in one.
-/
namespace LoadSeries
open Text

/-- The counts that do not depend on how far ahead the producer was. -/
structure PopulateMetrics.SameCounts (x y : PopulateMetrics) : Prop where
  records : x.records = y.records
  values : x.values = y.values
  batches : x.batches = y.batches
  bytes : x.bytes = y.bytes

/-- The description with another seed, or with none. -/
def Schema.reseeded (x : Schema) (other : Option UInt64) : Schema := { x with seed := other }

namespace Populator

variable {x y : Populator} {τ : Type} {sink : Sink τ} {content : τ → Bytes} {into rest : τ}
  {paths : Paths} {cancelled : Bool} {directory left : Directory paths} {key : String}
  {recipe : Recipe}
  {rows taken : List Bytes} {bytes bytes' : Bytes} {metrics metrics' : PopulateMetrics}

/-- The bytes and the counts of a run that succeeds, by whatever schedule: into a sink that collects
the records with their endings, through a buffer, or to a file. -/
inductive Delivers (x : Populator) : Bytes → PopulateMetrics → Prop
  | collected {τ : Type} {sink : Sink τ} {content : τ → Bytes} {into rest : τ} {cancelled : Bool}
      {metrics : PopulateMetrics} (collects : sink.Collects x.writer.ending content)
      (fresh : content into = []) (ran : x.Populates cancelled sink into (.ok metrics) rest) :
      Delivers x (content rest) metrics
  | buffered {capacity : Nat} {rest : Buffer} {cancelled : Bool} {metrics : PopulateMetrics}
      (ran : x.Populates cancelled (Buffer.sink capacity x.writer.ending) .empty (.ok metrics)
        rest) :
      Delivers x rest.passed metrics
  | saved {paths : Paths} {cancelled : Bool} {directory left : Directory paths} {key : String}
      {taken : List Bytes} {bytes : Bytes} {metrics : PopulateMetrics}
      (ran : x.Saves cancelled directory key (some (.ok metrics)) taken left)
      (held : left.files.lookup key = some bytes) :
      Delivers x bytes metrics

/-- Nothing about the populator makes a run fail: these are its records, all of them can be written,
and there is room for the queue and for a batch. -/
structure Feasible (x : Populator) (recipe : Recipe) (rows : List Bytes) : Prop where
  settled : x.recipe = .ok recipe
  exhausts : Generator.source.Exhausts (.ofRecipe recipe) rows
  queue : x.config.hasQueue = true
  room : x.config.hasRoom = true

theorem Populates.feasible (ran : x.Populates cancelled sink into (.ok metrics) rest) :
    ∃ recipe rows, x.Feasible recipe rows := by
  obtain ⟨recipe, events, report, counts, settled, reports, succeeded, -, -⟩ := ran.of_ok
  have exhausts := (reports.success succeeded).1
  have accepted := (follows_of_recipe settled).accepted
  obtain ⟨length, -⟩ := Recipe.exhausts_ofRecipe accepted exhausts
  have some : 0 < (acceptedRecords events).length := length ▸ accepted.totalRecords_pos
  cases reports with
  | refused started => exact absurd rfl started
  | returned _ queue run _ =>
    refine ⟨recipe, acceptedRecords events, settled, exhausts, queue, ?_⟩
    by_contra none
    -- Without room for a batch there would be no records, but every data set has some.
    have stalled := Setup.run_stalled run (Bool.eq_false_iff.mpr none)
    simp [stalled.acceptedRecords_eq_nil] at some

/-- Behind a run that succeeds the buffer has passed everything on. -/
theorem Populates.passed {capacity : Nat} {start stop : Buffer} {ending : Bytes}
    (ran : x.Populates cancelled (Buffer.sink capacity ending) start (.ok metrics) stop) :
    stop.passed = stop.bytes := by
  obtain ⟨recipe, events, report, counts, -, reports, succeeded, -, rfl⟩ := ran.of_ok
  obtain ⟨-, calls, answers, -⟩ := reports.success succeeded
  rw [calls] at answers
  exact Buffer.passed_of_flushed answers

theorem Saves.populates
    (saved : x.Saves cancelled directory key (some (.ok metrics)) taken left) :
    ∃ stored, x.Populates cancelled x.writer.sink .empty (.ok metrics) stored ∧
      left.files.lookup key = some stored.bytes := by
  generalize outcome : some (Except.ok metrics : Except PopulateError PopulateMetrics) = result
    at saved
  cases saved with
  | refused => cases outcome
  | @streamed recipe events report settled reports =>
    rw [Option.some.inj outcome]
    exact ⟨report.sink, .streamed settled reports, Directory.put_replaces.content⟩
  | broken => cases outcome

theorem Delivers.carries (delivers : x.Delivers bytes metrics) :
    ∃ recipe rows, x.Feasible recipe rows ∧ x.Carries rows bytes metrics := by
  -- Whatever the target is, its bytes are those of some sink that collects the records.
  obtain ⟨τ, sink, content, into, rest, cancelled, collects, fresh, ran, rfl⟩ :
      ∃ (τ : Type) (sink : Sink τ) (content : τ → Bytes) (into rest : τ) (cancelled : Bool),
        sink.Collects x.writer.ending content ∧ content into = [] ∧
          x.Populates cancelled sink into (.ok metrics) rest ∧ content rest = bytes := by
    cases delivers with
    | collected collects fresh ran => exact ⟨_, _, _, _, _, _, collects, fresh, ran, rfl⟩
    | buffered ran => exact ⟨_, _, _, _, _, _, Buffer.collects, rfl, ran, ran.passed.symm⟩
    | saved ran held =>
      obtain ⟨stored, ran, content⟩ := ran.populates
      exact ⟨_, _, _, _, _, _, Writer.collects_unlimited, rfl, ran,
        Option.some.inj (content.symm.trans held)⟩
  obtain ⟨recipe, rows, feasible⟩ := ran.feasible
  obtain ⟨recipe', rows', settled, exhausts, carries⟩ := ran.carries collects fresh
  obtain rfl := Except.ok.inj (settled.symm.trans feasible.settled)
  obtain rfl := exhausts.unique feasible.exhausts
  exact ⟨recipe', rows', feasible, carries⟩

theorem Feasible.unique {recipe' : Recipe} {rows' : List Bytes} (feasible : x.Feasible recipe rows)
    (other : x.Feasible recipe' rows') : rows' = rows := by
  obtain rfl := Except.ok.inj (feasible.settled.symm.trans other.settled)
  exact other.exhausts.unique feasible.exhausts

theorem Carries.same (carries : x.Carries rows bytes metrics)
    (other : x.Carries rows bytes' metrics') :
    bytes' = bytes ∧ metrics'.SameCounts metrics := by
  have same : bytes' = bytes := other.written.trans carries.written.symm
  refine ⟨same, ?_, ?_, ?_, ?_⟩
  · exact UInt64.toNat_inj.mp (other.records.trans carries.records.symm)
  · rw [other.values, carries.values]
  · exact UInt64.toNat_inj.mp (other.batches.trans carries.batches.symm)
  · rw [other.size, carries.size, same]

theorem Delivers.same (delivers : x.Delivers bytes metrics) (other : x.Delivers bytes' metrics') :
    bytes' = bytes ∧ metrics'.SameCounts metrics := by
  obtain ⟨recipe, rows, feasible, carries⟩ := delivers.carries
  obtain ⟨recipe', rows', feasible', carries'⟩ := other.carries
  obtain rfl := feasible.unique feasible'
  exact carries.same carries'

/-- If one run has succeeded, then so does the one that is carried out, into any such sink. -/
theorem Delivers.populateInto (delivers : x.Delivers bytes metrics)
    (collects : sink.Collects x.writer.ending content) (fresh : content into = []) :
    ∃ metrics' rest, x.populateInto false sink into = some (.ok metrics', rest) ∧
      content rest = bytes ∧ metrics'.SameCounts metrics := by
  obtain ⟨recipe, rows, feasible, -⟩ := delivers.carries
  obtain ⟨report, reported⟩ :=
    (follows_of_recipe feasible.settled).exists_run feasible.queue false sink into
  obtain ⟨result, rest, ran⟩ : ∃ result rest,
      x.populateInto false sink into = some (result, rest) := by
    simp only [Populator.populateInto, feasible.settled, stream, reported, Option.map_some]
    exact ⟨_, _, rfl⟩
  have completes := populateInto_completes collects.quiet ran
  obtain ⟨metrics', rfl⟩ :=
    completes.result_of_exhausts feasible.settled feasible.room collects.accepts feasible.exhausts
  have again : x.Delivers (content rest) metrics' :=
    .collected collects fresh (populateInto_populates ran)
  exact ⟨metrics', rest, ran, delivers.same again⟩

theorem populateOutput_of_stored {result : Except PopulateError PopulateMetrics} {stored : Storage}
    (ran : x.populateInto cancelled x.writer.sink .empty = some (result, stored)) :
    x.populateOutput cancelled = (some result, stored.bytes) := by
  simp only [populateOutput, ran]

theorem populateFile_of_stored {stored : Storage}
    (ran : x.populateInto cancelled x.writer.sink .empty = some (.ok metrics, stored)) :
    x.populateFile cancelled directory key =
      (some (.ok metrics), directory.put key stored.bytes) := by
  unfold populateFile
  unfold Populator.populateInto at ran
  cases settled : x.recipe with
  | error error => simp [settled] at ran
  | ok recipe =>
    rw [settled] at ran
    simp only [ran]

theorem delivers_of_populateOutput
    (ran : x.populateOutput cancelled = (some (.ok metrics), bytes)) :
    x.Delivers bytes metrics := by
  unfold populateOutput at ran
  split at ran
  · rename_i into
    cases ran
    exact .collected Writer.collects_unlimited rfl (populateInto_populates into)
  · cases ran

theorem delivers_of_populateFile
    (ran : (x.populateFile cancelled directory key).1 = some (.ok metrics))
    (held : (x.populateFile cancelled directory key).2.files.lookup key = some bytes) :
    x.Delivers bytes metrics := by
  obtain ⟨taken, saved⟩ := x.populateFile_saves cancelled directory key
  rw [ran] at saved
  exact .saved saved held

/-- The populator of a description in which another seed stands, or none. -/
def reseeded (x : Populator) (other : Option UInt64) : Populator :=
  { x with schema := x.schema.reseeded other }

section Reseeded

variable {other : Option UInt64} {result : Except PopulateError PopulateMetrics}

/-- A run has nothing of a description but what the recipe holds. -/
theorem Populates.of_same (recipe : y.recipe = x.recipe) (config : y.config = x.config)
    (ran : x.Populates cancelled sink into result rest) :
    y.Populates cancelled sink into result rest := by
  cases ran with
  | refused settled => exact .refused (recipe.trans settled)
  | streamed settled reports =>
    rw [← config] at reports
    exact .streamed (recipe.trans settled) reports

theorem Saves.of_same {result : Option (Except PopulateError PopulateMetrics)}
    (recipe : y.recipe = x.recipe) (config : y.config = x.config) (writer : y.writer = x.writer)
    (saved : x.Saves cancelled directory key result taken left) :
    y.Saves cancelled directory key result taken left := by
  cases saved with
  | refused settled => exact .refused (recipe.trans settled)
  | streamed settled reports =>
    rw [← config, ← writer] at reports
    exact .streamed (recipe.trans settled) reports
  | broken settled queueless =>
    rw [← config] at queueless
    exact .broken (recipe.trans settled) queueless

theorem Delivers.of_same (recipe : y.recipe = x.recipe) (config : y.config = x.config)
    (writer : y.writer = x.writer) (delivers : x.Delivers bytes metrics) :
    y.Delivers bytes metrics := by
  cases delivers with
  | collected collects fresh ran =>
    rw [← writer] at collects
    exact .collected collects fresh (ran.of_same recipe config)
  | buffered ran =>
    rw [← writer] at ran
    exact .buffered (ran.of_same recipe config)
  | saved ran held => exact .saved (ran.of_same recipe config writer) held

theorem recipe_reseeded : (x.reseeded other).recipe = x.recipe := rfl

theorem populates_reseeded_iff : (x.reseeded other).Populates cancelled sink into result rest ↔
    x.Populates cancelled sink into result rest :=
  ⟨.of_same recipe_reseeded.symm rfl, .of_same recipe_reseeded rfl⟩

theorem delivers_reseeded_iff :
    (x.reseeded other).Delivers bytes metrics ↔ x.Delivers bytes metrics :=
  ⟨.of_same recipe_reseeded.symm rfl rfl, .of_same recipe_reseeded rfl rfl⟩

end Reseeded

end Populator

end LoadSeries
