import LoadSeries.Proofs.Pipeline.Supply

/-!
What the consumer does with the queue and the sink. The batches taken are the first ones sent, in
order; the records accepted are those of the batches taken, up to the place that the consumer has
come to; the queue is given up through the guard only when it is empty and the producer finished.
-/
namespace LoadSeries
open Text

/-- The batch that the consumer has in hand and has not begun to write. -/
def Consumer.popped? : Consumer → Option (List Bytes)
  | .popped batch => some batch
  | _ => none

/-- Whether the consumer still holds the receiving end of the queue. -/
def Consumer.isOpen : Consumer → Bool
  | .polling | .popped _ | .writing _ | .idle => true
  | _ => false

/-- The error that the producer ended with, if the source refused an item. -/
def Producer.refusal? : Producer → Option EncodingError
  | .ending (.refused error) | .finished (.refused error) => some error
  | _ => none

attribute [simp] Consumer.popped? Consumer.isOpen Producer.refusal?

namespace Setup

variable {σ τ : Type} {x : Setup σ τ} {origin : σ} {into : τ} {cancelled : Bool}

/-- All that the producer's moves leave alone. -/
structure SameConsumer (s t : System σ τ) (new : List Event) : Prop where
  consumer : t.consumer = s.consumer
  guard : t.guard = s.guard
  sink : t.sink = s.sink
  progress : t.progress = s.progress
  lifecycle : t.lifecycle = s.lifecycle
  transitions : t.transitions = s.transitions
  cancelled : t.cancelled = s.cancelled
  receiving : t.receiving = s.receiving
  taken : takenBatches new = []
  accepted : acceptedWrites new = []
  calls : sinkCalls new = []
  unfinished : s.producer.isFinished = false

theorem ProducerMove.frame {s t : System σ τ} {new : List Event} (move : x.ProducerMove s new t) :
    SameConsumer s t new := by
  cases move <;> constructor <;> simp_all [Producer.isFinished]

theorem SameConsumer.ne_finished {s t : System σ τ} {new : List Event}
    (same : SameConsumer s t new) (how : Ending) : s.producer ≠ .finished how := by
  intro finished
  have unfinished := same.unfinished
  simp [finished, Producer.isFinished] at unfinished

structure Queued (events : List Event) (s : System σ τ) : Prop where
  receiving : s.receiving = s.consumer.isOpen
  fifo : s.receiving = true →
    sentBatches events = takenBatches events ++ s.consumer.popped?.toList ++ s.queue
  taken : takenBatches events <+: sentBatches events

/-- How far the consumer has come in the batches that it took, and what it has counted. -/
def Written (events : List Event) (s : System σ τ) : Prop :=
  s.progress.records = .ofNat (acceptedWrites events).length ∧
    s.progress.bytes = .ofNat (acceptedBytes events) ∧
    match s.consumer with
    | .writing rest =>
      acceptedRecords events ++ rest = (takenBatches events).flatten ∧
        s.progress.batches + 1 = .ofNat (takenBatches events).length
    | .returned (.error (.sinkWrite _ _ _)) =>
      acceptedRecords events <+: (takenBatches events).flatten
    | _ =>
      acceptedRecords events = (takenBatches events).flatten ∧
        s.progress.batches = .ofNat (takenBatches events).length

/-- What the guard's count says of the producer and the queue. -/
def Guarded (s : System σ τ) : Prop :=
  match s.consumer with
  | .polling | .popped _ =>
    s.guard = .fresh ∨ s.guard = ⟨1⟩ ∧ s.producer.isFinished = true
  | .idle =>
    s.guard = .fresh ∨ s.guard = ⟨1⟩ ∧ s.producer.isFinished = true ∧ s.queue = []
  | .writing _ => s.guard = .fresh
  | _ => True

theorem run_flagged {events : List Event} {s : System σ τ}
    (run : x.Run (x.start origin into cancelled) events s) :
    s.aborted = s.producer.refusal?.isSome := by
  refine run.preserves (fun _ s => s.aborted = s.producer.refusal?.isSome) ?_ ?_ ?_
    (fun _ flagged => flagged)
  · simp only [start, System.start, System.enter]
    split <;> rfl
  · intro events t new u _ flagged move
    cases move <;> simp_all
    split <;> simp_all
  · intro events t new u _ flagged move
    obtain ⟨-, producer, aborted, -⟩ := move.frame
    rw [producer, aborted, flagged]

private theorem queued_produce {s t : System σ τ} {events new : List Event}
    (queued : Queued events s) (move : x.ProducerMove s new t) : Queued (events ++ new) t := by
  obtain ⟨receiving, fifo, taken⟩ := queued
  have same := move.frame
  refine ⟨by rw [same.receiving, same.consumer, receiving], ?_, ?_⟩
  · intro hears
    rw [same.receiving] at hears
    cases move <;> simp [fifo hears]
  · simp only [Event.select_append, same.taken, List.append_nil]
    exact taken.trans (List.prefix_append _ _)

private theorem queued_consume {s t : System σ τ} {events new : List Event}
    (queued : Queued events s) (move : x.ConsumerMove s new t) : Queued (events ++ new) t := by
  obtain ⟨receiving, fifo, taken⟩ := queued
  cases move with
  | take popped going =>
    have hears : s.receiving = true := by simpa [popped] using receiving
    have order := fifo hears
    simp only [popped, Consumer.popped?, Option.toList_some] at order
    refine ⟨by simpa using hears, fun _ => by simpa using order, ?_⟩
    simp only [Event.select_append, Event.select_singleton, Event.sent?, Event.taken?,
      Option.toList_none, Option.toList_some, List.append_nil, order]
    exact List.prefix_append _ _
  | _ => constructor <;> simp_all [System.enter, System.hangUp, System.fail, Setup.closeBatch]

theorem run_queued {events : List Event} {s : System σ τ}
    (run : x.Run (x.start origin into cancelled) events s) : Queued events s := by
  refine run.preserves Queued ?_ (fun _ => queued_produce) (fun _ => queued_consume) ?_
  · constructor <;> simp [start, System.start, System.enter]
  · rintro events t - ⟨receiving, fifo, taken⟩
    exact ⟨receiving, fifo, taken⟩

private theorem written_consume {s t : System σ τ} {events new : List Event}
    (written : Written events s) (move : x.ConsumerMove s new t) : Written (events ++ new) t := by
  obtain ⟨records, bytes, place⟩ := written
  cases move with
  | stumble writing refused =>
    simp only [writing] at place
    simp only [Written, System.fail, System.enter, System.hangUp, acceptedRecords, acceptedBytes,
      Event.select_append, Event.select_singleton, Event.accepted?, Event.taken?,
      Option.toList_none, List.append_nil]
    exact ⟨records, bytes, _, place.1⟩
  | _ => simp_all [Written, System.enter, System.hangUp, System.fail, Setup.closeBatch]

theorem run_written {events : List Event} {s : System σ τ}
    (run : x.Run (x.start origin into cancelled) events s) : Written events s := by
  refine run.preserves Written ?_ ?_ (fun _ => written_consume) (fun _ written => written)
  · simp [Written, start, System.start, System.enter, Progress.none]
  · intro events t new u _ written move
    have same := move.frame
    unfold Written at written ⊢
    rw [same.progress, same.consumer]
    simpa [same.taken, same.accepted] using written

private theorem guarded_consume {s t : System σ τ} {new : List Event} (guarded : Guarded s)
    (move : x.ConsumerMove s new t) : Guarded t := by
  cases move with
  | confirm idle finished again =>
    simp only [Guarded, idle] at guarded
    -- Behind one idle poll with the producer finished, a second one does not ask for another.
    rcases guarded with fresh | ⟨once, -, -⟩
    · simp_all [Guarded, DrainGuard.confirm, DrainGuard.fresh]
    · rw [once] at again
      exact absurd (by decide) again
  | _ =>
    simp_all [Guarded, System.enter, System.hangUp, System.fail, Setup.closeBatch,
      DrainGuard.observePop]

theorem run_guarded {events : List Event} {s : System σ τ}
    (run : x.Run (x.start origin into cancelled) events s) : Guarded s := by
  refine run.preserves (fun _ => Guarded) ?_ ?_ (fun _ => guarded_consume)
    (fun _ guarded => guarded)
  · simp [Guarded, start, System.start, System.enter]
  · intro events t new u _ guarded move
    have same := move.frame
    have unfinished := same.unfinished
    unfold Guarded at guarded ⊢
    rw [same.consumer, same.guard]
    -- The producer still moves, so the guard has counted nothing yet.
    cases stage : t.consumer <;> simp_all

/-- The guard lets the consumer go only when nothing is queued and nothing can be queued. -/
theorem drained {events : List Event} {s : System σ τ}
    (run : x.Run (x.start origin into cancelled) events s) (idle : s.consumer = .idle)
    (enough : DrainGuard.required ≤ s.guard.confirm.confirmations) :
    s.producer.isFinished = true ∧ s.queue = [] := by
  have guarded := run_guarded run
  simp only [Guarded, idle] at guarded
  rcases guarded with fresh | ⟨-, finished, empty⟩
  · rw [fresh] at enough
    exact absurd enough (by decide)
  · exact ⟨finished, empty⟩

end Setup

end LoadSeries
