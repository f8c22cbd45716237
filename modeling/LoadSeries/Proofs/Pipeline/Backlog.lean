import LoadSeries.Proofs.Pipeline.WholeBatches

/-!
How much a run holds. The records that were pulled and have not been accepted are those that the
producer has not sent, those of the queue and those of the batch that the consumer has in hand; and
none is added to what the consumer leaves behind when it gives up the queue.
-/
namespace LoadSeries
open Text

theorem Batched.length_pos {size : Nat} {batches : List (List Bytes)} {batch : List Bytes}
    (positive : 0 < size) (batched : Batched size batches) (member : batch ∈ batches) :
    0 < batch.length := by
  obtain ⟨full, last, rfl, allFull, ending⟩ := batched
  rcases List.mem_append.mp member with earlier | latest
  · rw [allFull batch earlier]
    exact positive
  · rcases ending with rfl | ⟨short, rfl, filled, -⟩
    · cases latest
    · rw [List.mem_singleton.mp latest]
      exact filled

theorem length_flatten_le {size : Nat} {batches : List (List Bytes)}
    (bounded : ∀ batch ∈ batches, batch.length ≤ size) :
    batches.flatten.length ≤ batches.length * size := by
  induction batches with
  | nil => simp
  | cons batch rest ih =>
    have first := bounded batch List.mem_cons_self
    have others := ih fun other member => bounded other (List.mem_cons_of_mem _ member)
    rw [List.flatten_cons, List.length_append, List.length_cons, Nat.add_mul]
    omega

/-- The records that the consumer has taken from the queue and not yet written. -/
def Consumer.unwritten : Consumer → List Bytes
  | .popped batch => batch
  | .writing rest => rest
  | _ => []

namespace Setup

variable {σ τ : Type} {x : Setup σ τ} {origin : σ} {into : τ} {cancelled : Bool}

/-- The queue keeps to its capacity, also as the consumer has seen it, and holds sent batches. -/
structure Contained (x : Setup σ τ) (events : List Event) (s : System σ τ) : Prop where
  queue : s.queue.length ≤ x.config.queueCapacity
  depth : s.progress.maxDepth ≤ x.config.queueCapacity
  sent : s.queue ⊆ sentBatches events

private theorem contained_produce {s t : System σ τ} {events new : List Event}
    (contained : x.Contained events s) (move : x.ProducerMove s new t) :
    x.Contained (events ++ new) t := by
  obtain ⟨queue, depth, sent⟩ := contained
  cases move with
  | send sending receiving room | sendLast sending receiving room =>
    refine ⟨by simpa using room, depth, ?_⟩
    simpa using List.append_subset.mpr
      ⟨List.subset_append_of_subset_left _ sent, List.subset_append_right _ _⟩
  | _ => exact ⟨queue, depth, by simpa using sent⟩

private theorem contained_consume {s t : System σ τ} {events new : List Event}
    (contained : x.Contained events s) (move : x.ConsumerMove s new t) :
    x.Contained (events ++ new) t := by
  have none : sentBatches new = [] := move.frame.2.2.2.2.2
  obtain ⟨queue, depth, sent⟩ := contained
  have same : sentBatches (events ++ new) = sentBatches events := by simp [none]
  cases move with
  | pop polling going queued =>
    rw [queued] at queue sent
    exact ⟨Nat.le_of_succ_le queue, depth, same ▸ List.subset_of_cons_subset sent⟩
  | take popped going => exact ⟨queue, Nat.max_le.mpr ⟨depth, queue⟩, same ▸ sent⟩
  | interrupt | drop | stumble | leave =>
    exact ⟨Nat.zero_le _, by simpa [System.enter, System.hangUp, System.fail] using depth,
      List.nil_subset _⟩
  | _ =>
    exact ⟨by simpa [System.enter, System.fail, Setup.closeBatch] using queue,
      by simpa [System.enter, System.fail, Setup.closeBatch] using depth,
      by simpa [System.enter, System.fail, Setup.closeBatch, none] using sent⟩

theorem run_contained {events : List Event} {s : System σ τ}
    (run : x.Run (x.start origin into cancelled) events s) : x.Contained events s := by
  refine run.preserves x.Contained ?_ (fun _ => contained_produce) (fun _ => contained_consume) ?_
  · exact ⟨Nat.zero_le _, Nat.zero_le _, List.nil_subset _⟩
  · rintro events t - ⟨queue, depth, sent⟩
    exact ⟨queue, depth, sent⟩

/-- The producer pulls no more than a batch beyond what it has sent. -/
theorem pulled_le_sent {events : List Event} {s : System σ τ}
    (run : x.Run (x.start origin into cancelled) events s) :
    (pulledRecords events).length ≤
      (sentBatches events).flatten.length + x.config.batchSize := by
  refine run.preserves
    (fun events _ => (pulledRecords events).length ≤
      (sentBatches events).flatten.length + x.config.batchSize) (Nat.zero_le _) ?_ ?_
    (fun _ bound => bound)
  · intro events t new u before bound move
    have supplied := run_supplied before
    cases move with
    | fill pulling found full | gather pulling found room =>
      simp only [Supplied, pulling] at supplied
      obtain ⟨-, held, -, short⟩ := supplied
      simp [held, Batch.length_toList]
      omega
    | @send batch | @sendLast batch =>
      have same : pulledRecords (events ++ [.sent batch]) = pulledRecords events := by simp
      have grown : (sentBatches (events ++ [.sent batch])).flatten.length =
          (sentBatches events).flatten.length + batch.length := by simp
      rw [same, grown]
      omega
    | _ => simpa using bound
  · intro events t new u _ bound move
    obtain ⟨-, -, -, -, pulled, sent⟩ := move.frame
    simpa [pulled, sent] using bound

/-- As long as the consumer holds the queue, what was sent and is not accepted is in its hand or
queued. -/
theorem sent_eq {events : List Event} {s : System σ τ}
    (run : x.Run (x.start origin into cancelled) events s) (receiving : s.receiving = true) :
    (sentBatches events).flatten =
      acceptedRecords events ++ s.consumer.unwritten ++ s.queue.flatten := by
  have queued := run_queued run
  have place := (run_written run).2.2
  have order := queued.fifo receiving
  have held := queued.receiving.symm.trans receiving
  cases stage : s.consumer with
  | polling | idle =>
    simp only [stage] at place order
    simp [order, place.1, Consumer.unwritten]
  | popped batch =>
    simp only [stage] at place order
    simp [order, place.1, Consumer.unwritten]
  | writing rest =>
    simp only [stage] at place order
    simp only [order, Consumer.unwritten, place.1]
    simp
  | leaving | flushing | joining | returned => simp [stage] at held

theorem unwritten_le {events : List Event} {s : System σ τ}
    (run : x.Run (x.start origin into cancelled) events s) (receiving : s.receiving = true) :
    s.consumer.unwritten.length ≤ x.config.batchSize := by
  cases stage : s.consumer with
  | popped batch =>
    have order := (run_queued run).fifo receiving
    have member : batch ∈ sentBatches events := by simp [order, stage]
    exact (run_wholeBatches run).batched.length_le member
  | writing rest => exact length_left_le run stage
  | _ => exact Nat.zero_le _

private theorem sent_le_of_receiving {events : List Event} {s : System σ τ}
    (run : x.Run (x.start origin into cancelled) events s) (receiving : s.receiving = true) :
    (sentBatches events).flatten.length ≤
      (acceptedRecords events).length + (x.config.queueCapacity + 1) * x.config.batchSize := by
  have contained := run_contained run
  have small : s.queue.flatten.length ≤ s.queue.length * x.config.batchSize :=
    length_flatten_le fun batch member =>
      (run_wholeBatches run).batched.length_le (contained.sent member)
  have room := Nat.mul_le_mul_right x.config.batchSize contained.queue
  have inHand := unwritten_le run receiving
  rw [sent_eq run receiving, List.length_append, List.length_append, Nat.add_mul]
  omega

/-- What was sent and is not accepted fits into the queue and one batch more. -/
theorem sent_le_accepted {events : List Event} {s : System σ τ}
    (run : x.Run (x.start origin into cancelled) events s) :
    (sentBatches events).flatten.length ≤
      (acceptedRecords events).length + (x.config.queueCapacity + 1) * x.config.batchSize := by
  -- Once the queue is given up nothing is sent any more, so the bound stands as it was then.
  induction run with
  | nil => exact Nat.zero_le _
  | @produce events t u run taken ih =>
    cases receiving : u.receiving with
    | true => exact sent_le_of_receiving (run.produce taken) receiving
    | false =>
      have move := produce_move taken
      have deaf : t.receiving = false := move.frame.receiving.symm.trans receiving
      generalize x.produceEvents t = new at move
      cases move with
      | send _ hears | sendLast _ hears => simp [deaf] at hears
      | _ => simpa using ih
  | @consume events t u run taken ih =>
    obtain ⟨-, -, -, -, -, none⟩ := (consume_move taken).frame
    have same : sentBatches (events ++ x.consumeEvents t) = sentBatches events := by simp [none]
    have more : (acceptedRecords (events ++ x.consumeEvents t)).length =
        (acceptedRecords events).length + (acceptedRecords (x.consumeEvents t)).length := by simp
    rw [same, more]
    omega
  | cancel run ih => exact ih

/-- In every reachable state, also when the queue has been given up, the records pulled and not
accepted fit into the queue and two batches more; the queue keeps to its capacity, no batch in it is
empty or too long, and no greater length of it has been seen. -/
theorem backlog_bounded {events : List Event} {s : System σ τ}
    (run : x.Run (x.start origin into cancelled) events s) :
    (pulledRecords events).length ≤
        (acceptedRecords events).length + (x.config.queueCapacity + 2) * x.config.batchSize ∧
      s.queue.length ≤ x.config.queueCapacity ∧
      (∀ batch ∈ s.queue, 1 ≤ batch.length ∧ batch.length ≤ x.config.batchSize) ∧
      s.progress.maxDepth ≤ x.config.queueCapacity := by
  have contained := run_contained run
  have batched := (run_wholeBatches run).batched
  refine ⟨?_, contained.queue, fun batch member => ?_, contained.depth⟩
  · have unsent := pulled_le_sent run
    have unaccepted := sent_le_accepted run
    rw [Nat.add_mul] at unaccepted ⊢
    omega
  · have sent := contained.sent member
    exact ⟨batched.length_pos x.config.batchSize_pos sent, batched.length_le sent⟩

/-- One record at a time, without an end, into a storage that has no room. -/
def choked : Setup (List Item) Storage where
  config := ⟨1, 1, 10, Nat.one_pos, Nat.one_pos⟩
  source := .endless [.record [48]]
  sink := Writer.sink ⟨some [10], some 0⟩

/-- The bound is met: with a batch in hand, one queued and one waiting, the sink fails. -/
theorem backlog_bounded_choked : ∃ events s,
    choked.Run (choked.start [] .empty false) events s ∧ s.receiving = false ∧
      (pulledRecords events).length = (acceptedRecords events).length + (1 + 2) * 1 ∧
      (pulledRecords events).length ≤ (acceptedRecords events).length + (1 + 2) * 1 ∧
      s.queue.length ≤ 1 ∧ s.progress.maxDepth ≤ 1 := by
  have taken := ((Run.nil (x := choked) (s := choked.start [] .empty false)).produce rfl
    |>.produce rfl |>.consume rfl |>.produce rfl |>.produce rfl |>.produce rfl)
  have run := taken.consume rfl |>.consume rfl
  obtain ⟨bound, queue, -, depth⟩ := backlog_bounded run
  exact ⟨_, _, run, rfl, rfl, bound, queue, depth⟩

end Setup

end LoadSeries
