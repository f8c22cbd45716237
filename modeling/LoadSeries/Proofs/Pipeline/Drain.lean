import LoadSeries.Proofs.Pipeline.Abort
import LoadSeries.Proofs.Pipeline.Course

/-!
Draining the queue. The guard lets the consumer leave the queue only when the producer has finished
and nothing is queued, however the producer ended. So when the producer's source comes to a sudden
end, all full batches in front of it are written, and the run fails out of draining.
-/
namespace LoadSeries
open Text

namespace Setup

variable {σ τ : Type} {x : Setup σ τ} {origin : σ} {into : τ} {cancelled : Bool}

/-- An idle consumer leaves the queue by its guard alone. -/
theorem drained_of_leave {events : List Event} {s t : System σ τ}
    (run : x.Run (x.start origin into cancelled) events s) (idle : s.consumer = .idle)
    (taken : x.consume? s = some t) (leaves : t.consumer = .leaving) :
    s.producer.isFinished = true ∧ s.queue = [] := by
  have move := consume_move taken
  generalize x.consumeEvents s = new at move
  cases move with
  | leave _ finished enough => exact drained run idle enough
  | _ => simp_all

theorem result_of_crashes {records : List Bytes} {events : List Event} {s : System σ τ}
    {result : Except PipelineError Progress} (crashes : x.source.Crashes origin records)
    (accepts : x.sink.Accepts into) (run : x.Run (x.start origin into cancelled) events s)
    (returned : s.result? = some result) (uncancelled : s.cancelled = false) :
    result = .error .producerCrashed := by
  rcases result_cases run returned uncancelled with
    ⟨counts, rfl, exhausts⟩ | ⟨error, all, rfl, refuses⟩ | ⟨rfl, -⟩ |
      ⟨written, bytes, reason, rfl, refused⟩
  · exact absurd crashes exhausts.not_crashes
  · exact absurd crashes refuses.not_crashes
  · rfl
  · exact absurd refused (not_refused_of_accepts run accepts)

/-- The batches of a source that crashed are written as far as they were filled. -/
theorem accepted_of_crashed {records : List Bytes} {events : List Event} {s : System σ τ}
    (crashes : x.source.Crashes origin records)
    (run : x.Run (x.start origin into cancelled) events s)
    (returned : s.result? = some (.error .producerCrashed)) :
    acceptedRecords events = records.take
      (if x.config.hasRoom then records.length / x.config.batchSize * x.config.batchSize
        else 0) := by
  cases room : x.config.hasRoom with
  | false =>
    rw [(run_stalled run room).acceptedRecords_eq_nil]
    simp
  | true =>
    obtain ⟨-, ⟨crashed, all⟩, accepted, -⟩ := failed_of_error run returned (by simp)
    have supplied := run_supplied run
    simp only [Supplied, crashed, Ended, Short] at supplied
    obtain ⟨cause, full, unsent, pulled, short⟩ := supplied
    have seen : x.source.Crashes origin (pulledRecords events) := by
      rcases cause with seen | ⟨none, -⟩
      · exact seen
      · simp [none] at room
    rw [← crashes.unique seen] at pulled
    have batches : (sentBatches events).length = records.length / x.config.batchSize := by
      have count : records.length =
          (sentBatches events).length * x.config.batchSize + unsent.length := by
        rw [pulled, List.length_append, full.length_flatten]
      symm
      rw [count, Nat.div_eq_iff x.config.batchSize_pos]
      omega
    rw [accepted, all, if_pos rfl, ← batches]
    exact full.take_flatten ⟨unsent, pulled.symm⟩

/-- The consumer leaves the queue by the guard only when the producer has finished and the queue is
empty; and if the source comes to a sudden end behind so many records, the sink refuses nothing and
the run is not cancelled, then each run that returns has failed with that crash, out of draining,
and has written all batches that the records fill. If there is no room for a batch, none is. -/
theorem drains_soundly :
    (∀ (events : List Event) (s t : System σ τ), x.Run (x.start origin into cancelled) events s →
      s.consumer = .idle → x.consume? s = some t → t.consumer = .leaving →
        s.producer.isFinished = true ∧ s.queue = []) ∧
    ∀ (records : List Bytes) (events : List Event) (s : System σ τ)
      (result : Except PipelineError Progress), x.source.Crashes origin records →
      x.sink.Accepts into → x.Run (x.start origin into cancelled) events s →
      s.result? = some result → s.cancelled = false →
        result = .error .producerCrashed ∧
        s.transitions = [(.idle, .running), (.running, .draining), (.draining, .failed)] ∧
        acceptedRecords events = records.take
          (if x.config.hasRoom then records.length / x.config.batchSize * x.config.batchSize
            else 0) ∧
        ∀ flush, .flushed flush ∉ events := by
  refine ⟨fun events s t => drained_of_leave, ?_⟩
  intro records events s result crashes accepts run returned uncancelled
  obtain rfl := result_of_crashes crashes accepts run returned uncancelled
  obtain ⟨-, -, -, unflushed⟩ := failed_of_error run returned (by simp)
  have course := run_course run
  simp only [System.Course, consumer_of_result? returned] at course
  obtain ⟨drained, ⟨-, transitions⟩, crashed⟩ := course
  rw [crashed trivial] at transitions
  exact ⟨rfl, transitions, accepted_of_crashed crashes run returned, unflushed⟩

theorem drains_soundly_pairs : ∃ before s events t,
    brokenPairs.Run (brokenPairs.start (threeRecords.map .record ++ [.crash]) .empty false)
        before s ∧
      s.consumer = .idle ∧ (observe s).consumer = .leaving ∧
      s.producer.isFinished = true ∧ s.queue = [] ∧
      brokenPairs.Run (brokenPairs.start (threeRecords.map .record ++ [.crash]) .empty false)
        events t ∧
      t.result? = some (.error .producerCrashed) ∧
      t.transitions = [(.idle, .running), (.running, .draining), (.draining, .failed)] ∧
      acceptedRecords events = [[48], [49]] := by
  have crashes : brokenPairs.source.Crashes (threeRecords.map .record ++ [.crash])
      threeRecords := ⟨_, Source.listed_gives _ _, rfl⟩
  obtain ⟨before, first⟩ := run_run brokenPairs 14
    (brokenPairs.start (threeRecords.map .record ++ [.crash]) .empty false)
  obtain ⟨events, run⟩ := run_run brokenPairs 60
    (brokenPairs.start (threeRecords.map .record ++ [.crash]) .empty false)
  obtain ⟨finished, empty⟩ := drains_soundly.1 _ _ _ first rfl rfl rfl
  obtain ⟨-, transitions, front, -⟩ :=
    drains_soundly.2 _ _ _ _ crashes Writer.accepts_of_unlimited run rfl rfl
  exact ⟨before, _, events, _, first, rfl, rfl, finished, empty, run, rfl, transitions, front⟩

/-- A source of so many records, all empty, that crashes behind them. -/
def dwindling : Source Nat
  | 0 => .crashed
  | left + 1 => .record [] left

theorem dwindling_crashes (count : Nat) :
    Source.Crashes dwindling count (List.replicate count []) := by
  refine ⟨0, ?_, rfl⟩
  induction count with
  | zero => exact .nil 0
  | succ left ih => exact .cons rfl ih

/-- Batches without room, and a source that fills one of them. -/
def brim : Setup Nat Storage := ⟨roomless.config, dwindling, Writer.sink ⟨none, none⟩⟩

/-- Without room for a batch none is written, although the records in front of the crash fill one.
Nor is there a crash where a pipeline has run before: the source is not even looked at. -/
theorem full_batch_unwritten :
    (∃ events s records, brim.Run (brim.start brim.config.batchSize .empty false) events s ∧
      s.result? = some (.error .producerCrashed) ∧ s.cancelled = false ∧
      brim.sink.Accepts .empty ∧ brim.source.Crashes brim.config.batchSize records ∧
      records.length / brim.config.batchSize * brim.config.batchSize = 384307168202282326 ∧
      acceptedRecords events = []) ∧
    ∃ events report, { Pipeline.paired with lifecycle := .done }.Reports .listed
        [.record [97], .crash] (Writer.sink ⟨none, none⟩) .empty events report ∧
      Source.listed.Crashes [.record [97], .crash] [[97]] ∧
      report.result = .error (.alreadyStarted .done) ∧ report.transitions = [] := by
  constructor
  · obtain ⟨events, run⟩ := run_run brim 60 (brim.start brim.config.batchSize .empty false)
    have crashes : brim.source.Crashes brim.config.batchSize
        (List.replicate brim.config.batchSize []) := dwindling_crashes _
    refine ⟨events, _, _, run, rfl, rfl, Writer.accepts_of_unlimited, crashes, ?_,
      (run_stalled run rfl).acceptedRecords_eq_nil⟩
    rw [List.length_replicate, Nat.div_self brim.config.batchSize_pos, Nat.one_mul]
    rfl
  · exact ⟨[], _, .refused (by simp), ⟨_, Source.listed_gives [[97]] _, rfl⟩, rfl, rfl⟩

end Setup

end LoadSeries
