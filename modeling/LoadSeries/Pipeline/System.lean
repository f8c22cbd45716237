import LoadSeries.Pipeline.Batch
import LoadSeries.Pipeline.Config
import LoadSeries.Pipeline.DrainGuard
import LoadSeries.Pipeline.Source
import LoadSeries.Sink.Basic

/-!
A run as a system of two actors. The producer pulls records from a source, gathers them in batches
and sends these through a bounded queue; the consumer polls the queue and writes to a sink. The
steps of the two may come in any order, and the run may be cancelled between any two steps.
-/
namespace LoadSeries

open Text

inductive Ending where
  | completed
  | refused (error : EncodingError)
  /-- Nobody receives any more. -/
  | interrupted
  | crashed
deriving DecidableEq, Repr

inductive Producer where
  | pulling (batch : Batch)
  /-- A batch waits for room in the queue; it may be the last one. -/
  | sending (batch : List Bytes) (isLast : Bool)
  | ending (how : Ending)
  /-- The producer has returned, and the others can see that. -/
  | finished (how : Ending)

def Producer.isFinished : Producer → Bool
  | .finished _ => true
  | _ => false

/-- What the consumer has counted, in words of 64 bits that begin again behind their greatest. -/
structure Progress where
  records : UInt64
  batches : UInt64
  bytes : UInt64
  /-- The greatest length of the queue seen behind a batch taken from it. -/
  maxDepth : Nat
deriving DecidableEq, Repr

def Progress.none : Progress := ⟨0, 0, 0, 0⟩

inductive Consumer where
  | polling
  | popped (batch : List Bytes)
  | writing (rest : List Bytes)
  | idle
  /-- No batch is wanted any more; the producer's end is awaited. -/
  | leaving
  | flushing
  /-- The run was cancelled; the producer's end is awaited. -/
  | joining
  | returned (result : Except PipelineError Progress)

structure System (σ τ : Type) where
  source : σ
  producer : Producer
  queue : List (List Bytes)
  receiving : Bool
  /-- Raised by the producer before it ends with an error. -/
  aborted : Bool
  cancelled : Bool
  consumer : Consumer
  guard : DrainGuard
  sink : τ
  progress : Progress
  lifecycle : Lifecycle
  transitions : List (Lifecycle × Lifecycle)

structure Setup (σ τ : Type) where
  config : PipelineConfig
  source : Source σ
  sink : Sink τ

namespace System

variable {σ τ : Type}

def enter (s : System σ τ) (next : Lifecycle) : System σ τ :=
  { s with lifecycle := next, transitions := s.transitions ++ [(s.lifecycle, next)] }

/-- A run at its start. Without room for a batch the producer crashes before it pulls a record. -/
def start (config : PipelineConfig) (source : σ) (sink : τ) (cancelled : Bool) : System σ τ :=
  enter
    { source, sink, cancelled
      producer := if config.hasRoom then .pulling .empty else .ending .crashed
      queue := []
      receiving := true
      aborted := false
      consumer := .polling
      guard := .fresh
      progress := .none
      lifecycle := .idle
      transitions := [] }
    .running

/-- Gives up the receiving end of the queue, and with it all that the queue holds. -/
def hangUp (s : System σ τ) : System σ τ := { s with receiving := false, queue := [] }

def fail (s : System σ τ) (error : PipelineError) : System σ τ :=
  { s.enter .failed with consumer := .returned (.error error) }

def result? (s : System σ τ) : Option (Except PipelineError Progress) :=
  match s.consumer with
  | .returned result => some result
  | _ => none

end System

namespace Setup

variable {σ τ : Type}

/-- Takes one more record from the source. A full batch is sent; so is the last one, if it holds
anything. -/
def pull (x : Setup σ τ) (s : System σ τ) (batch : Batch) : System σ τ :=
  match x.source s.source with
  | .finished =>
    if batch.size = 0 then { s with producer := .ending .completed }
    else { s with producer := .sending batch.toList true }
  | .record bytes rest =>
    let next := batch.push bytes
    if next.size = x.config.batchSize then
      { s with source := rest, producer := .sending next.toList false }
    else { s with source := rest, producer := .pulling next }
  | .refused error rest =>
    { s with source := rest, aborted := true, producer := .ending (.refused error) }
  | .crashed => { s with producer := .ending .crashed }

/-- A step of the producer, which is blocked as long as the queue is full. -/
def produce? (x : Setup σ τ) (s : System σ τ) : Option (System σ τ) :=
  match s.producer with
  | .pulling batch => some (x.pull s batch)
  | .sending batch isLast =>
    if !s.receiving then some { s with producer := .ending .interrupted }
    else if s.queue.length < x.config.queueCapacity then
      some { s with
        queue := s.queue ++ [batch]
        producer := if isLast then .ending .completed else .pulling .empty }
    else none
  | .ending how => some { s with producer := .finished how }
  | .finished _ => none

def poll (s : System σ τ) : System σ τ :=
  if s.cancelled then { s.hangUp.enter .failed with consumer := .joining }
  else
    match s.queue with
    | [] => { s with consumer := .idle }
    | batch :: rest => { s with queue := rest, consumer := .popped batch }

/-- Begins to write a batch, unless the producer has raised its flag. -/
def accept (s : System σ τ) (batch : List Bytes) : System σ τ :=
  if s.aborted then { s.hangUp with consumer := .leaving }
  else
    { s with
      guard := s.guard.observePop
      progress := { s.progress with maxDepth := max s.progress.maxDepth s.queue.length }
      consumer := .writing batch }

def write (x : Setup σ τ) (s : System σ τ) (record : Bytes) (rest : List Bytes) : System σ τ :=
  match x.sink.write s.sink record with
  | (.ok bytes, sink) =>
    { s with
      sink
      cancelled := s.cancelled || x.sink.cancels sink
      progress :=
        { s.progress with
          records := s.progress.records + 1
          bytes := s.progress.bytes + .ofNat bytes }
      consumer := .writing rest }
  | (.error reason, sink) =>
    { s.hangUp with sink }.fail (.sinkWrite s.progress.records s.progress.bytes reason)

def closeBatch (s : System σ τ) : System σ τ :=
  { s with
    progress := { s.progress with batches := s.progress.batches + 1 }
    consumer := .polling }

/-- Looks whether the producer has finished, and asks the guard. -/
def observe (s : System σ τ) : System σ τ :=
  let finished := s.producer.isFinished
  let seen := if finished && s.lifecycle == .running then s.enter .draining else s
  let (guard, mayStop) := seen.guard.observeIdle finished
  if mayStop then { seen.hangUp with guard, consumer := .leaving }
  else { seen with guard, consumer := .polling }

def settle? (s : System σ τ) : Option (System σ τ) :=
  match s.producer with
  | .finished .completed => some { s with consumer := .flushing }
  | .finished (.refused error) => some (s.fail (.encoding error))
  | .finished .interrupted => some (s.fail .interrupted)
  | .finished .crashed => some (s.fail .producerCrashed)
  | _ => none

def flush (x : Setup σ τ) (s : System σ τ) : System σ τ :=
  match x.sink.flush s.sink with
  | (.ok _, sink) => { { s with sink }.enter .done with consumer := .returned (.ok s.progress) }
  | (.error reason, sink) =>
    { s with sink }.fail (.sinkWrite s.progress.records s.progress.bytes reason)

/-- A step of the consumer, which is blocked as long as it awaits the producer's end. -/
def consume? (x : Setup σ τ) (s : System σ τ) : Option (System σ τ) :=
  match s.consumer with
  | .polling => some (poll s)
  | .popped batch => some (accept s batch)
  | .writing [] => some (closeBatch s)
  | .writing (record :: rest) => some (x.write s record rest)
  | .idle => some (observe s)
  | .leaving => settle? s
  | .flushing => some (x.flush s)
  | .joining =>
    if s.producer.isFinished then some { s with consumer := .returned (.error .interrupted) }
    else none
  | .returned _ => none

/-- One step of a run, by either actor or by a cancellation from outside. -/
inductive Step (x : Setup σ τ) : System σ τ → System σ τ → Prop
  | produce {s t : System σ τ} (taken : x.produce? s = some t) : Step x s t
  | consume {s t : System σ τ} (taken : x.consume? s = some t) : Step x s t
  | cancel (s : System σ τ) : Step x s { s with cancelled := true }

end Setup

end LoadSeries
