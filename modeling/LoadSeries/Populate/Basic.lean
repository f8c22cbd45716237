import LoadSeries.Dataset.Schema
import LoadSeries.Generator.Basic
import LoadSeries.Pipeline.Run
import LoadSeries.Populate.Error
import LoadSeries.Sink.Writer

/-!
A populator writes a whole data set in one encoding: it settles all that can be refused, and then
runs a generator through a pipeline.
-/
namespace LoadSeries

open Text

structure Populator where
  schema : Schema
  seed : Int64
  userType : UInt32
  mode : Mode
  metric : String
  separator : Char
  config : PipelineConfig
deriving DecidableEq, Repr

structure PopulateMetrics where
  records : UInt64
  values : UInt64
  batches : UInt64
  bytes : UInt64
  maxDepth : Nat
deriving DecidableEq, Repr

def PopulateMetrics.ofProgress (x : Progress) (fields : Nat) : PopulateMetrics :=
  ⟨x.records, x.records * .ofNat fields, x.batches, x.bytes, x.maxDepth⟩

def Generator.source : Source Generator := fun x =>
  match x.next? with
  | (none, _) => .finished
  | (some (.ok bytes), rest) => .record bytes rest
  | (some (.error error), rest) => .refused error rest

namespace Populator

/-- A populator of standard settings, with the metric of the data set. -/
def ofSchema (schema : Schema) (seed : Int64) : Populator where
  schema
  seed
  userType := 0
  mode := .text
  metric := schema.metric
  separator := Line.standardSeparator
  config := .standard

def recipe (x : Populator) : Except PopulateError Recipe := do
  let cadence ← x.schema.cadence.mapError .config
  let catalog ← x.schema.catalog.mapError .config
  let encoder ← (Encoder.ofMode x.mode x.metric x.separator).mapError .encoding
  return {
    cadence
    tables := x.schema.tables
    catalog
    encoder
    userType := x.userType
    key := .ofSeed x.seed.toUInt64 }

/-- Steps that are enough for a run of so many records. -/
def enoughSteps (records : Nat) : Nat := 8 * records + 32

def stream {τ : Type} (x : Populator) (recipe : Recipe) (cancelled : Bool) (sink : Sink τ)
    (into : τ) : Option (Except PopulateError PopulateMetrics × τ) :=
  let pipeline : Pipeline := ⟨x.config, .idle, cancelled⟩
  (pipeline.run (enoughSteps recipe.cadence.totalRecords) Generator.source (.ofRecipe recipe) sink
    into).map fun report =>
      (report.result.mapError .pipeline |>.map (.ofProgress · recipe.catalog.size), report.sink)

/-- Writes the data set into a sink. Nothing is written if a setting is refused. -/
def populateInto {τ : Type} (x : Populator) (cancelled : Bool) (sink : Sink τ) (into : τ) :
    Option (Except PopulateError PopulateMetrics × τ) :=
  match x.recipe with
  | .error error => some (.error error, into)
  | .ok recipe => x.stream recipe cancelled sink into

def writer (x : Populator) : Writer := ⟨x.mode.terminator, none⟩

end Populator

end LoadSeries
