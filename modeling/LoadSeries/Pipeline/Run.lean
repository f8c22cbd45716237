import LoadSeries.Pipeline.System

/-!
One schedule of a run, in which the consumer goes first as long as it has work, and the pipeline as
an object that runs once.
-/
namespace LoadSeries

namespace System

variable {σ τ : Type}

def isStarved (s : System σ τ) : Bool :=
  match s.consumer with
  | .polling => s.queue.isEmpty && !s.cancelled
  | _ => false

end System

namespace Setup

variable {σ τ : Type}

def next? (x : Setup σ τ) (s : System σ τ) : Option (System σ τ) :=
  if s.isStarved then x.produce? s <|> x.consume? s else x.consume? s <|> x.produce? s

def run (x : Setup σ τ) : Nat → System σ τ → System σ τ
  | 0, s => s
  | fuel + 1, s =>
    match s.consumer with
    | .returned _ => s
    | _ =>
      match x.next? s with
      | some t => x.run fuel t
      | none => s

end Setup

structure Pipeline where
  config : PipelineConfig
  lifecycle : Lifecycle
  cancelled : Bool
deriving DecidableEq, Repr

structure Report (τ : Type) where
  result : Except PipelineError Progress
  transitions : List (Lifecycle × Lifecycle)
  pipeline : Pipeline
  sink : τ

namespace Pipeline

def ofConfig (config : PipelineConfig) : Pipeline := ⟨config, .idle, false⟩

def cancel (x : Pipeline) : Pipeline := { x with cancelled := true }

/-- Runs a source into a sink. A pipeline that has run before refuses. There is no report if there
can be no queue, or if the run does not return within the steps that the fuel allows. -/
def run {σ τ : Type} (x : Pipeline) (fuel : Nat) (source : Source σ) (from' : σ) (sink : Sink τ)
    (into : τ) : Option (Report τ) :=
  if x.lifecycle ≠ .idle then some ⟨.error (.alreadyStarted x.lifecycle), [], x, into⟩
  else if !x.config.hasQueue then none
  else
    let setup : Setup σ τ := ⟨x.config, source, sink⟩
    let final := setup.run fuel (System.start x.config from' into x.cancelled)
    final.result?.map fun result =>
      ⟨result, final.transitions, ⟨x.config, final.lifecycle, final.cancelled⟩, final.sink⟩

end Pipeline

end LoadSeries
