import LoadSeries.Proofs.Pipeline.Delivery
import LoadSeries.Proofs.Pipeline.WholeBatches

/-!
Runs on a source that comes to an item which cannot be encoded. Such a run fails with the error of
that item. The item is the last one pulled; the records accepted are those of the first full
batches in front of it, and once it has been pulled no batch is begun any more.
-/
namespace LoadSeries
open Text

/-- How many records of the batch that the consumer is writing are left. -/
def Consumer.left : Consumer → Nat
  | .writing rest => rest.length
  | _ => 0

attribute [simp] Consumer.left

namespace Setup

variable {σ τ : Type} {x : Setup σ τ} {origin : σ} {into : τ} {cancelled : Bool}

/-- Behind the item that the source refused, nothing is pulled and no more is accepted than was
left of a batch. -/
def Refusing (x : Setup σ τ) (events : List Event) (s : System σ τ) : Prop :=
  ∀ error, s.producer.refusal? = some error → ∃ before after,
    events = before ++ .pulled (some (.refused error)) :: after ∧ pulls after = [] ∧
      (acceptedRecords after).length + s.consumer.left ≤ x.config.batchSize

private theorem refusing_produce {s t : System σ τ} {events new : List Event}
    (run : x.Run (x.start origin into cancelled) events s) (refusing : x.Refusing events s)
    (move : x.ProducerMove s new t) : x.Refusing (events ++ new) t := by
  have same := move.frame
  intro error refused
  cases move with
  | refuse pulling found =>
    cases refused
    refine ⟨events, [], rfl, rfl, ?_⟩
    have left : s.consumer.left ≤ x.config.batchSize := by
      cases stage : s.consumer with
      | writing rest => exact length_left_le run stage
      | _ => exact Nat.zero_le _
    simpa using left
  | @finish how ending =>
    have refused' : s.producer.refusal? = some error := by
      rw [ending]
      cases how with
      | refused other => exact refused
      | _ => cases refused
    obtain ⟨before, after, split, quiet, bound⟩ := refusing error refused'
    exact ⟨before, after, by simpa using split, quiet, bound⟩
  | _ => simp at refused

private theorem refusing_consume {s t : System σ τ} {events new : List Event}
    (run : x.Run (x.start origin into cancelled) events s) (refusing : x.Refusing events s)
    (move : x.ConsumerMove s new t) : x.Refusing (events ++ new) t := by
  intro error refused
  obtain ⟨-, producer, -⟩ := move.frame
  rw [producer] at refused
  obtain ⟨before, after, split, quiet, bound⟩ := refusing error refused
  have aborted : s.aborted = true := by rw [run_flagged run, refused]; rfl
  -- No batch is taken any more, so that each record accepted is one that was left.
  have fewer : (acceptedRecords new).length + t.consumer.left ≤ s.consumer.left := by
    cases move with
    | take popped going => simp [aborted] at going
    | write writing accepted => simp [writing, Nat.add_comm]
    | _ => simp [System.enter, System.hangUp, System.fail, Setup.closeBatch]
  refine ⟨before, after ++ new, by rw [split]; simp, ?_, ?_⟩
  · cases move <;> simpa using quiet
  · have more : (acceptedRecords (after ++ new)).length =
        (acceptedRecords after).length + (acceptedRecords new).length := by simp
    omega

theorem run_refusing {events : List Event} {s : System σ τ}
    (run : x.Run (x.start origin into cancelled) events s) : x.Refusing events s := by
  refine run.preserves x.Refusing ?_ refusing_produce refusing_consume
    (fun _ refusing => refusing)
  intro error refused
  simp only [start, System.start, System.enter] at refused
  split at refused <;> cases refused

theorem result_of_refuses {records : List Bytes} {error : EncodingError} {events : List Event}
    {s : System σ τ} {result : Except PipelineError Progress} (room : x.config.hasRoom = true)
    (refuses : x.source.Refuses origin records error) (accepts : x.sink.Accepts into)
    (run : x.Run (x.start origin into cancelled) events s) (returned : s.result? = some result)
    (uncancelled : s.cancelled = false) : result = .error (.encoding error) := by
  rcases result_cases run returned uncancelled with
    ⟨counts, rfl, exhausts⟩ | ⟨other, all, rfl, refused⟩ | ⟨rfl, cause⟩ |
      ⟨written, bytes, reason, rfl, refused⟩
  · exact absurd refuses exhausts.not_refuses
  · rw [(refuses.unique refused).2]
  · obtain ⟨all, crashes⟩ := cause.resolve_right (by simp [room])
    exact absurd crashes refuses.not_crashes
  · exact absurd refused (not_refused_of_accepts run accepts)

/-- If the source refuses an item behind so many records, the sink refuses nothing and the run is
not cancelled, then each run that returns has failed with that refusal. Behind the refused item the
source is left alone, and at most one batch is written to its end. Without room for a batch the run
has come to nothing. -/
theorem refusal_aborts {records : List Bytes} {error : EncodingError} {events : List Event}
    {s : System σ τ} {result : Except PipelineError Progress}
    (refuses : x.source.Refuses origin records error) (accepts : x.sink.Accepts into)
    (run : x.Run (x.start origin into cancelled) events s) (returned : s.result? = some result)
    (uncancelled : s.cancelled = false) :
    (x.config.hasRoom = true → result = .error (.encoding error) ∧ s.lifecycle = .failed ∧
      (∀ flush, .flushed flush ∉ events) ∧
      (∃ count, count * x.config.batchSize ≤ records.length ∧
        acceptedRecords events = records.take (count * x.config.batchSize)) ∧
      ∃ before after, events = before ++ .pulled (some (.refused error)) :: after ∧
        pulledRecords before = records ∧ pulls after = [] ∧
        (acceptedRecords after).length ≤ x.config.batchSize) ∧
      (x.config.hasRoom = false → Barren events s.lifecycle result) := by
  refine ⟨fun room => ?_, fun none => barren_of_roomless run none returned uncancelled⟩
  obtain rfl := result_of_refuses room refuses accepts run returned uncancelled
  obtain ⟨failed, refused, accepted, unflushed⟩ := failed_of_error run returned (by simp)
  have refused : s.producer = .finished (.refused error) := refused
  have supplied := run_supplied run
  simp only [Supplied, refused, Ended] at supplied
  obtain ⟨pulled, -⟩ := refuses.unique supplied.1
  have full : AllFull x.config.batchSize (takenBatches events) :=
    (taken_wholeBatches run).allFull fun exhausts => exhausts.not_refuses refuses
  have front : (takenBatches events).flatten <+: records := by
    rw [pulled, ← accepted]
    exact accepted_isPrefix run
  have bound : (takenBatches events).length * x.config.batchSize ≤ records.length := by
    rw [← full.length_flatten]
    exact front.length_le
  obtain ⟨before, after, split, quiet, few⟩ := run_refusing run error (by rw [refused]; rfl)
  have whole : pulledRecords before = records := by
    have none : pulledRecords after = [] := pulledRecords_eq_nil quiet
    rw [pulled, split]
    simp only [Event.select_append, Event.select_cons, none]
    simp
  refine ⟨rfl, failed, unflushed, ⟨_, bound, accepted.trans (full.take_flatten front)⟩, before,
    after, split, whole, quiet, ?_⟩
  omega

def brokenPairs : Setup (List Item) Storage where
  config := ⟨2, 1, 10, Nat.two_pos, Nat.one_pos⟩
  source := .listed
  sink := Writer.sink ⟨some [10], none⟩

theorem refusal_aborts_pairs : ∃ events s,
    brokenPairs.Run (brokenPairs.start (threeRecords.map .record ++ [.refused .emptyFieldCatalog])
        .empty false) events s ∧
      s.result? = some (.error (.encoding .emptyFieldCatalog)) ∧
      (∃ count, count * 2 ≤ 3 ∧ acceptedRecords events = threeRecords.take (count * 2)) ∧
      ∃ before after,
        events = before ++ .pulled (some (.refused .emptyFieldCatalog)) :: after ∧
          pulls after = [] ∧ (acceptedRecords after).length ≤ 2 := by
  obtain ⟨events, run⟩ := run_run brokenPairs 60
    (brokenPairs.start (threeRecords.map .record ++ [.refused .emptyFieldCatalog]) .empty false)
  have refuses : brokenPairs.source.Refuses
      (threeRecords.map .record ++ [.refused .emptyFieldCatalog]) threeRecords
      .emptyFieldCatalog := ⟨_, [], Source.listed_gives _ _, rfl⟩
  obtain ⟨-, -, -, front, before, after, split, -, quiet, few⟩ :=
    (refusal_aborts refuses Writer.accepts_of_unlimited run rfl rfl).1 rfl
  exact ⟨events, _, run, rfl, front, before, after, split, quiet, few⟩

/-- Without room for a batch the refusal is not seen, although nothing else stands in the way. -/
theorem refusal_unseen_without_room : ∃ events s,
    roomless.Run (roomless.start [.record [97], .refused .emptyFieldCatalog] .empty false)
        events s ∧
      s.result? = some (.error .producerCrashed) ∧ s.cancelled = false ∧
      roomless.source.Refuses [.record [97], .refused .emptyFieldCatalog] [[97]]
        .emptyFieldCatalog ∧
      roomless.sink.Accepts .empty := by
  obtain ⟨events, run⟩ := run_run roomless 60
    (roomless.start [.record [97], .refused .emptyFieldCatalog] .empty false)
  have refuses : roomless.source.Refuses [.record [97], .refused .emptyFieldCatalog] [[97]]
      .emptyFieldCatalog := ⟨_, [], Source.listed_gives [[97]] _, rfl⟩
  exact ⟨events, _, run, rfl, rfl, refuses, Writer.accepts_of_unlimited⟩

end Setup

end LoadSeries
