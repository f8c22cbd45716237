import LoadSeries.Command.Arguments
import LoadSeries.Command.Log
import LoadSeries.Dataset.Decode
import LoadSeries.Populate.Destination

/-!
What the program does for its arguments: it loads and validates the data set, settles the pipeline,
and then shows the plan or carries it out.
-/
namespace LoadSeries.Command

open Text

inductive Cause where
  | load (error : ConfigError)
  | pipeline (error : PipelineError)
  | populate (error : PopulateError)
deriving DecidableEq, Repr

namespace Cause

def message : Cause → String
  | load error => error.message
  | pipeline error => error.message
  | populate error => error.message

def causes : Cause → List String
  | load error => error.cause?.toList
  | pipeline error => error.causes
  | populate error => error.causes

def log : Cause → List String
  | populate (.pipeline error) => pipelineLog error
  | _ => []

end Cause

structure Failure where
  context : String
  cause : Cause
deriving DecidableEq, Repr

def Failure.text (x : Failure) : String :=
  "Error: " ++ ": ".intercalate (x.context :: x.cause.message :: x.cause.causes)

/-- The seed of a run for which neither the arguments nor the data set name one. -/
def standardSeed : Int64 := 42

structure Outcome (paths : Paths) where
  plan : List String
  /-- The counts of the run, and none of them if it was a dry one; nothing if it broke off. -/
  result : Option (Except Failure (Option PopulateMetrics))
  stdout : Bytes
  directory : Directory paths

namespace Arguments

variable {paths : Paths}

/-- The seed of the arguments, else the data set's, taken as a number with a sign. -/
def effectiveSeed (x : Arguments) (schema : Schema) : Int64 :=
  (x.seed <|> schema.seed.map UInt64.toInt64).getD standardSeed

def populator (x : Arguments) (content : Except FileFault Bytes) : Except Failure Populator := do
  let schema ← (Schema.ofFile content).mapError fun error =>
    ⟨"Failed to load dataset from " ++ quoted x.dataset, .load error⟩
  let config ← (PipelineConfig.ofSizes x.batchSize x.queueCapacity).mapError fun error =>
    ⟨"Invalid pipeline configuration", .pipeline (.config error)⟩
  return {
    schema
    seed := x.effectiveSeed schema
    userType := x.userType
    mode := x.mode
    metric := x.metric.getD schema.metric
    separator := x.separator
    config }

def destination (x : Arguments) : String :=
  match x.target with
  | .file => "file " ++ quoted x.output
  | .stdout => "stdout"

def plan (x : Arguments) (populator : Populator) : List String :=
  let schema := populator.schema
  let users := schema.users.last.toInt - schema.users.first.toInt + 1
  ["Would generate " ++ natString schema.totalRecords ++ " records (" ++ intString users ++
      " users x " ++ natString schema.samplesPerUser.toNat ++ " samples, " ++
      natString schema.fields.length ++ " fields) to " ++ x.destination,
    "Encoding: " ++ populator.mode.name ++ " (metric=" ++ populator.metric ++ ", seed=" ++
      intString populator.seed.toInt ++ ")",
    "Pipeline: batch_size=" ++ natString populator.config.batchSize ++ ", queue_capacity=" ++
      natString populator.config.queueCapacity,
    "Dataset validated successfully"]

def failure (x : Arguments) (error : PopulateError) : Failure :=
  ⟨"Failed to populate " ++ x.destination, .populate error⟩

def conclude (x : Arguments) (result : Except PopulateError PopulateMetrics) :
    Except Failure (Option PopulateMetrics) :=
  (result.mapError x.failure).map some

def perform (x : Arguments) (populator : Populator) (cancelled : Bool)
    (directory : Directory paths) : Outcome paths :=
  if x.dryRun then ⟨x.plan populator, some (.ok none), [], directory⟩
  else
    match x.target with
    | .file =>
      let (result, bytes, directory) := populator.populatePath cancelled directory x.output
      ⟨[], result.map x.conclude, bytes, directory⟩
    | .stdout =>
      let (result, bytes) := populator.populateOutput cancelled
      ⟨[], result.map x.conclude, bytes, directory⟩

def run (x : Arguments) (cancelled : Bool) (directory : Directory paths) : Outcome paths :=
  match x.populator (directory.read x.dataset) with
  | .error failure => ⟨[], some (.error failure), [], directory⟩
  | .ok populator => x.perform populator cancelled directory

end Arguments

/-- How the program ends: its exit code, the error that it shows and the entries of the log before
it, and what it leaves behind. -/
structure Execution (paths : Paths) where
  exit : Nat
  log : List String
  error : Option String
  stdout : Bytes
  directory : Directory paths

/-- The exit code of words that are not carried out. To ask for help is no error. -/
def UsageError.exit : UsageError → Nat
  | .help => 0
  | _ => 2

def failureExit : Nat := 1

def breakExit : Nat := 101

def execute {paths : Paths} (words : List String) (directory : Directory paths) :
    Execution paths :=
  match Arguments.ofWords words with
  | .error e => ⟨e.exit, [], none, [], directory⟩
  | .ok arguments =>
    let outcome := arguments.run false directory
    match outcome.result with
    | some (.ok _) => ⟨0, [], none, outcome.stdout, outcome.directory⟩
    | some (.error failure) =>
      ⟨failureExit, failure.cause.log, some failure.text, outcome.stdout, outcome.directory⟩
    | none => ⟨breakExit, [], none, outcome.stdout, outcome.directory⟩

end LoadSeries.Command
