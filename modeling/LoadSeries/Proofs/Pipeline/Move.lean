import LoadSeries.Proofs.Pipeline.Trace

/-!
The steps of a run one by one, each with what makes it possible, what it does and where it leads.
Every invariant of a run is proved by one look at each of these moves.
-/
namespace LoadSeries
open Text

namespace System

variable {σ τ : Type} (s : System σ τ)

/-- What a run becomes when the consumer finds the producer finished. -/
def drain : System σ τ := if s.lifecycle = .running then s.enter .draining else s

@[simp] theorem drain_source : s.drain.source = s.source := by
  unfold drain
  split <;> rfl

@[simp] theorem drain_producer : s.drain.producer = s.producer := by
  unfold drain
  split <;> rfl

@[simp] theorem drain_queue : s.drain.queue = s.queue := by
  unfold drain
  split <;> rfl

@[simp] theorem drain_receiving : s.drain.receiving = s.receiving := by
  unfold drain
  split <;> rfl

@[simp] theorem drain_aborted : s.drain.aborted = s.aborted := by
  unfold drain
  split <;> rfl

@[simp] theorem drain_cancelled : s.drain.cancelled = s.cancelled := by
  unfold drain
  split <;> rfl

@[simp] theorem drain_consumer : s.drain.consumer = s.consumer := by
  unfold drain
  split <;> rfl

@[simp] theorem drain_guard : s.drain.guard = s.guard := by
  unfold drain
  split <;> rfl

@[simp] theorem drain_sink : s.drain.sink = s.sink := by
  unfold drain
  split <;> rfl

@[simp] theorem drain_progress : s.drain.progress = s.progress := by
  unfold drain
  split <;> rfl

end System

namespace Setup

variable {σ τ : Type}

inductive ProducerMove (x : Setup σ τ) (s : System σ τ) : List Event → System σ τ → Prop
  | exhaust {batch : Batch} (pulling : s.producer = .pulling batch)
      (finished : x.source s.source = .finished) (empty : batch.size = 0) :
      ProducerMove x s [.pulled none] { s with producer := .ending .completed }
  | close {batch : Batch} (pulling : s.producer = .pulling batch)
      (finished : x.source s.source = .finished) (filled : batch.size ≠ 0) :
      ProducerMove x s [.pulled none] { s with producer := .sending batch.toList true }
  | fill {batch : Batch} {bytes : Bytes} {rest : σ} (pulling : s.producer = .pulling batch)
      (found : x.source s.source = .record bytes rest)
      (full : batch.size + 1 = x.config.batchSize) :
      ProducerMove x s [.pulled (some (.record bytes))]
        { s with source := rest, producer := .sending (batch.toList ++ [bytes]) false }
  | gather {batch : Batch} {bytes : Bytes} {rest : σ} (pulling : s.producer = .pulling batch)
      (found : x.source s.source = .record bytes rest)
      (room : batch.size + 1 ≠ x.config.batchSize) :
      ProducerMove x s [.pulled (some (.record bytes))]
        { s with source := rest, producer := .pulling (batch.push bytes) }
  | refuse {batch : Batch} {error : EncodingError} {rest : σ}
      (pulling : s.producer = .pulling batch)
      (found : x.source s.source = .refused error rest) :
      ProducerMove x s [.pulled (some (.refused error))]
        { s with source := rest, aborted := true, producer := .ending (.refused error) }
  | crash {batch : Batch} (pulling : s.producer = .pulling batch)
      (found : x.source s.source = .crashed) :
      ProducerMove x s [.pulled (some .crash)] { s with producer := .ending .crashed }
  | giveUp {batch : List Bytes} {isLast : Bool} (sending : s.producer = .sending batch isLast)
      (deaf : s.receiving = false) :
      ProducerMove x s [] { s with producer := .ending .interrupted }
  | send {batch : List Bytes} (sending : s.producer = .sending batch false)
      (receiving : s.receiving = true) (room : s.queue.length < x.config.queueCapacity) :
      ProducerMove x s [.sent batch]
        { s with queue := s.queue ++ [batch], producer := .pulling .empty }
  | sendLast {batch : List Bytes} (sending : s.producer = .sending batch true)
      (receiving : s.receiving = true) (room : s.queue.length < x.config.queueCapacity) :
      ProducerMove x s [.sent batch]
        { s with queue := s.queue ++ [batch], producer := .ending .completed }
  | finish {how : Ending} (ending : s.producer = .ending how) :
      ProducerMove x s [] { s with producer := .finished how }

inductive ConsumerMove (x : Setup σ τ) (s : System σ τ) : List Event → System σ τ → Prop
  | interrupt (polling : s.consumer = .polling) (cancelled : s.cancelled = true) :
      ConsumerMove x s [] { s.hangUp.enter .failed with consumer := .joining }
  | starve (polling : s.consumer = .polling) (going : s.cancelled = false)
      (empty : s.queue = []) : ConsumerMove x s [] { s with consumer := .idle }
  | pop {batch : List Bytes} {rest : List (List Bytes)} (polling : s.consumer = .polling)
      (going : s.cancelled = false) (queued : s.queue = batch :: rest) :
      ConsumerMove x s [] { s with queue := rest, consumer := .popped batch }
  | drop {batch : List Bytes} (popped : s.consumer = .popped batch)
      (aborted : s.aborted = true) :
      ConsumerMove x s [] { s.hangUp with consumer := .leaving }
  | take {batch : List Bytes} (popped : s.consumer = .popped batch)
      (going : s.aborted = false) :
      ConsumerMove x s [.taken batch]
        { s with
          guard := s.guard.observePop
          progress := { s.progress with maxDepth := max s.progress.maxDepth s.queue.length }
          consumer := .writing batch }
  | write {record : Bytes} {rest : List Bytes} {bytes : Nat} {sink : τ}
      (writing : s.consumer = .writing (record :: rest))
      (accepted : x.sink.write s.sink record = (.ok bytes, sink)) :
      ConsumerMove x s [.written record (.ok bytes)]
        { s with
          sink
          cancelled := s.cancelled || x.sink.cancels sink
          progress :=
            { s.progress with
              records := s.progress.records + 1
              bytes := s.progress.bytes + .ofNat bytes }
          consumer := .writing rest }
  | stumble {record : Bytes} {rest : List Bytes} {reason : String} {sink : τ}
      (writing : s.consumer = .writing (record :: rest))
      (refused : x.sink.write s.sink record = (.error reason, sink)) :
      ConsumerMove x s [.written record (.error reason)]
        ({ s.hangUp with sink }.fail (.sinkWrite s.progress.records s.progress.bytes reason))
  | closeBatch (written : s.consumer = .writing []) : ConsumerMove x s [] (closeBatch s)
  | wait (idle : s.consumer = .idle) (busy : s.producer.isFinished = false) :
      ConsumerMove x s [] { s with guard := .fresh, consumer := .polling }
  | confirm (idle : s.consumer = .idle) (finished : s.producer.isFinished = true)
      (again : ¬ DrainGuard.required ≤ s.guard.confirm.confirmations) :
      ConsumerMove x s [] { s.drain with guard := s.guard.confirm, consumer := .polling }
  | leave (idle : s.consumer = .idle) (finished : s.producer.isFinished = true)
      (enough : DrainGuard.required ≤ s.guard.confirm.confirmations) :
      ConsumerMove x s [] { s.drain.hangUp with guard := s.guard.confirm, consumer := .leaving }
  | settle (leaving : s.consumer = .leaving) (completed : s.producer = .finished .completed) :
      ConsumerMove x s [] { s with consumer := .flushing }
  | settleRefused {error : EncodingError} (leaving : s.consumer = .leaving)
      (refused : s.producer = .finished (.refused error)) :
      ConsumerMove x s [] (s.fail (.encoding error))
  | settleInterrupted (leaving : s.consumer = .leaving)
      (interrupted : s.producer = .finished .interrupted) :
      ConsumerMove x s [] (s.fail .interrupted)
  | settleCrashed (leaving : s.consumer = .leaving) (crashed : s.producer = .finished .crashed) :
      ConsumerMove x s [] (s.fail .producerCrashed)
  | flush {sink : τ} (flushing : s.consumer = .flushing)
      (accepted : x.sink.flush s.sink = (.ok (), sink)) :
      ConsumerMove x s [.flushed (.ok ())]
        { { s with sink }.enter .done with consumer := .returned (.ok s.progress) }
  | flushRefused {reason : String} {sink : τ} (flushing : s.consumer = .flushing)
      (refused : x.sink.flush s.sink = (.error reason, sink)) :
      ConsumerMove x s [.flushed (.error reason)]
        ({ s with sink }.fail (.sinkWrite s.progress.records s.progress.bytes reason))
  | join (joining : s.consumer = .joining) (finished : s.producer.isFinished = true) :
      ConsumerMove x s [] { s with consumer := .returned (.error .interrupted) }

theorem produce_move {x : Setup σ τ} {s t : System σ τ} (taken : x.produce? s = some t) :
    x.ProducerMove s (x.produceEvents s) t := by
  cases stage : s.producer with
  | pulling batch =>
    simp only [produce?, stage, Option.some.injEq] at taken
    subst taken
    simp only [produceEvents, stage, pull]
    cases found : x.source s.source with
    | finished =>
      simp only [Pull.item?]
      split
      · exact .exhaust stage found ‹_›
      · exact .close stage found ‹_›
    | record bytes rest =>
      simp only [Pull.item?, Batch.toList_push]
      split
      · exact .fill stage found ‹_›
      · exact .gather stage found ‹_›
    | refused error rest => exact .refuse stage found
    | crashed => exact .crash stage found
  | sending batch isLast =>
    simp only [produce?, stage] at taken
    simp only [produceEvents, stage]
    split at taken
    · rename_i deaf
      cases taken
      have deaf : s.receiving = false := by simpa using deaf
      simpa [deaf] using ProducerMove.giveUp stage deaf
    · rename_i receiving
      have receiving : s.receiving = true := by simpa using receiving
      split at taken
      · rename_i room
        cases taken
        rw [if_pos receiving]
        cases isLast with
        | true => exact .sendLast stage receiving room
        | false => exact .send stage receiving room
      · cases taken
  | ending how =>
    simp only [produce?, stage, Option.some.injEq] at taken
    subst taken
    simpa only [produceEvents, stage] using ProducerMove.finish stage
  | finished how => simp [produce?, stage] at taken

private theorem observe_move {x : Setup σ τ} {s : System σ τ} (idle : s.consumer = .idle) :
    x.ConsumerMove s [] (observe s) := by
  cases finished : s.producer.isFinished with
  | false => simpa [observe, finished, DrainGuard.observeIdle] using ConsumerMove.wait idle finished
  | true =>
    have seen : (if s.lifecycle = .running then s.enter .draining else s) = s.drain := rfl
    simp only [observe, finished, Bool.true_and, beq_iff_eq, DrainGuard.observeIdle, if_true,
      seen, System.drain_guard, decide_eq_true_eq]
    split
    · exact .leave idle finished ‹_›
    · exact .confirm idle finished ‹_›

theorem consume_move {x : Setup σ τ} {s t : System σ τ} (taken : x.consume? s = some t) :
    x.ConsumerMove s (x.consumeEvents s) t := by
  cases stage : s.consumer with
  | polling =>
    simp only [consume?, stage, Option.some.injEq] at taken
    subst taken
    simp only [consumeEvents, stage, poll]
    split
    · exact .interrupt stage ‹_›
    · rename_i going
      have going : s.cancelled = false := by simpa using going
      split
      · exact .starve stage going ‹_›
      · exact .pop stage going ‹_›
  | popped batch =>
    simp only [consume?, stage, Option.some.injEq] at taken
    subst taken
    simp only [consumeEvents, stage, accept]
    split
    · exact .drop stage ‹_›
    · exact .take stage (by simpa using ‹¬ s.aborted = true›)
  | writing left =>
    cases left with
    | nil =>
      simp only [consume?, stage, Option.some.injEq] at taken
      subst taken
      simpa only [consumeEvents, stage] using ConsumerMove.closeBatch stage
    | cons record rest =>
      simp only [consume?, stage, Option.some.injEq] at taken
      subst taken
      simp only [consumeEvents, stage]
      unfold write
      split
      · rename_i bytes sink accepted
        rw [accepted]
        exact .write stage accepted
      · rename_i reason sink refused
        rw [refused]
        exact .stumble stage refused
  | idle =>
    simp only [consume?, stage, Option.some.injEq] at taken
    subst taken
    simpa only [consumeEvents, stage] using observe_move stage
  | leaving =>
    simp only [consume?, stage, settle?] at taken
    simp only [consumeEvents, stage]
    split at taken <;> cases taken
    · exact .settle stage ‹_›
    · exact .settleRefused stage ‹_›
    · exact .settleInterrupted stage ‹_›
    · exact .settleCrashed stage ‹_›
  | flushing =>
    simp only [consume?, stage, Option.some.injEq] at taken
    subst taken
    simp only [consumeEvents, stage]
    unfold flush
    split
    · rename_i sink accepted
      rw [accepted]
      exact .flush stage accepted
    · rename_i reason sink refused
      rw [refused]
      exact .flushRefused stage refused
  | joining =>
    simp only [consume?, stage] at taken
    simp only [consumeEvents, stage]
    split at taken <;> cases taken
    exact .join stage ‹_›
  | returned result => simp [consume?, stage] at taken

/-- What holds at the start of a run and is kept by every move holds all along. -/
theorem Run.preserves {x : Setup σ τ} {s t : System σ τ} {events : List Event}
    (holds : List Event → System σ τ → Prop) (run : x.Run s events t) (start : holds [] s)
    (produce : ∀ {events t new u}, x.Run s events t → holds events t → x.ProducerMove t new u →
      holds (events ++ new) u)
    (consume : ∀ {events t new u}, x.Run s events t → holds events t → x.ConsumerMove t new u →
      holds (events ++ new) u)
    (cancel : ∀ {events t}, x.Run s events t → holds events t →
      holds events { t with cancelled := true }) : holds events t := by
  induction run with
  | nil => exact start
  | produce run taken ih => exact produce run ih (produce_move taken)
  | consume run taken ih => exact consume run ih (consume_move taken)
  | cancel run ih => exact cancel run ih

end Setup

end LoadSeries
