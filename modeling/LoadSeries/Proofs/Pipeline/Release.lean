import LoadSeries.Proofs.Pipeline.Abort
import LoadSeries.Proofs.Pipeline.Inevitable

/-!
What becomes of the producer when the consumer gives up the queue. Nobody awaits the producer's end
before that; from then on the producer is never blocked, it asks its source for no more than fills
the batch that it has begun, and it comes to its end, as does the run.
-/
namespace LoadSeries
open Text

/-- How often the producer asks its source at the most before the batch in its hand is full. -/
def Producer.quota (size : Nat) : Producer → Nat
  | .pulling batch => size - batch.size
  | _ => 0

theorem Producer.quota_le (producer : Producer) (size : Nat) : producer.quota size ≤ size := by
  cases producer with
  | pulling batch => exact Nat.sub_le _ _
  | _ => exact Nat.zero_le _

namespace Setup

variable {σ τ : Type} {x : Setup σ τ} {origin : σ} {into : τ} {cancelled : Bool}

/-- A consumer that awaits the producer's end has given up the queue. -/
theorem deaf_of_awaiting {events : List Event} {s : System σ τ}
    (run : x.Run (x.start origin into cancelled) events s)
    (awaiting : s.consumer = .leaving ∨ s.consumer = .joining) : s.receiving = false := by
  rw [(run_queued run).receiving]
  rcases awaiting with stage | stage <;> rw [stage] <;> rfl

theorem Run.keeps_deaf {s t : System σ τ} {events : List Event} (run : x.Run s events t)
    (deaf : s.receiving = false) : t.receiving = false := by
  refine run.preserves (fun _ t => t.receiving = false) deaf ?_ ?_ (fun _ deaf => deaf)
  · intro events t new u _ deaf move
    rw [move.frame.receiving, deaf]
  · intro events t new u _ deaf move
    obtain ⟨-, -, -, hears, -⟩ := move.frame
    cases receiving : u.receiving with
    | false => rfl
    | true => exact (hears receiving).symm.trans deaf

theorem ConsumerMove.pulls_eq_nil {s t : System σ τ} {new : List Event}
    (move : x.ConsumerMove s new t) : pulls new = [] := by
  cases move <;> rfl

/-- Each item pulled is one less to ask for, as long as no batch can be sent. -/
theorem ProducerMove.pulls_le {s t : System σ τ} {new : List Event}
    (move : x.ProducerMove s new t) (deaf : s.receiving = false)
    (short : ∀ batch, s.producer = .pulling batch → batch.size < x.config.batchSize) :
    (pulls new).length + t.producer.quota x.config.batchSize ≤
      s.producer.quota x.config.batchSize := by
  cases move with
  | exhaust pulling | close pulling | fill pulling | refuse pulling | crash pulling =>
    have less := short _ pulling
    simp only [pulling, Producer.quota, Event.select_singleton, Event.pull?, Option.toList_some,
      List.length_singleton]
    omega
  | gather pulling =>
    have less := short _ pulling
    simp only [pulling, Producer.quota, Event.select_singleton, Event.pull?, Option.toList_some,
      List.length_singleton, Batch.size_push]
    omega
  | giveUp sending => simp [Producer.quota]
  | send _ hears | sendLast _ hears => simp [deaf] at hears
  | finish ending => simp [Producer.quota]

/-- Whatever happens once the queue is given up, the producer keeps to what it may ask for. -/
theorem pulls_le_quota {before after : List Event} {s t : System σ τ}
    (first : x.Run (x.start origin into cancelled) before s) (deaf : s.receiving = false)
    (run : x.Run s after t) :
    (pulls after).length + t.producer.quota x.config.batchSize ≤
      s.producer.quota x.config.batchSize := by
  refine run.preserves
    (fun after t => (pulls after).length + t.producer.quota x.config.batchSize ≤
      s.producer.quota x.config.batchSize) (by simp) ?_ ?_ (fun _ bound => bound)
  · intro events t new u second bound move
    have short (batch : Batch) (pulling : t.producer = .pulling batch) :
        batch.size < x.config.batchSize := by
      have supplied := run_supplied (first.trans second)
      simp only [Supplied, pulling] at supplied
      exact supplied.2.2.2
    have less := move.pulls_le (second.keeps_deaf deaf) short
    have split : (pulls (events ++ new)).length = (pulls events).length + (pulls new).length := by
      simp
    omega
  · intro events t new u _ bound move
    have same : pulls (events ++ new) = pulls events := by simp [move.pulls_eq_nil]
    rwa [same, move.frame.2.1]

/-- A consumer that has given up the queue only settles its account. -/
theorem ConsumerMove.work_lt_of_closed {s t : System σ τ} {new : List Event}
    (move : x.ConsumerMove s new t) (closed : s.consumer.isOpen = false) :
    x.work t < x.work s := by
  have room : x.room t = x.room s := by
    cases move with
    | settle | settleRefused | settleInterrupted | settleCrashed | flush | flushRefused | join =>
      rfl
    | _ => simp_all
  have less : t.consumer.work < s.consumer.work := by
    cases move <;> simp_all [Consumer.work, System.fail]
  have producer : t.producer = s.producer := move.frame.2.1
  unfold work
  rw [producer, room]
  exact Nat.add_lt_add_left less _

/-- Once the queue is given up, the producer finishes and the run returns. -/
theorem finishes_of_deaf {events : List Event} {s : System σ τ}
    (run : x.Run (x.start origin into cancelled) events s) (deaf : s.receiving = false) :
    x.Inevitable
      (fun t => t.producer.isFinished = true ∧ ∃ result, t.result? = some result) s := by
  refine inevitable_of_work (fun t => t.receiving = false) run deaf ?_ ?_
  · intro events t run deaf going
    cases finished : t.producer.isFinished with
    | false =>
      obtain ⟨u, taken⟩ := exists_produce deaf finished
      exact ⟨u, .inl taken⟩
    | true =>
      refine exists_acts run (Option.eq_none_iff_forall_ne_some.mpr fun result returned => ?_)
      exact going ⟨finished, result, returned⟩
  · intro events t u run deaf acts
    obtain ⟨new, step⟩ := acts.run
    refine ⟨step.keeps_deaf deaf, ?_⟩
    rcases acts with taken | taken
    · exact produce_work_lt run taken
    · have closed : t.consumer.isOpen = false := by rw [← (run_queued run).receiving, deaf]
      exact (consume_move taken).work_lt_of_closed closed

/-- Whoever awaits the producer's end has given up the queue; once it is given up, the producer
finishes and the run returns whatever the schedule is, and until then the producer is never blocked
and asks its source at most as often as a batch has records; and a run that has not returned is
never stuck. -/
theorem producer_released {events : List Event} {s : System σ τ}
    (run : x.Run (x.start origin into cancelled) events s) :
    (s.consumer = .leaving ∨ s.consumer = .joining → s.receiving = false) ∧
      (s.receiving = false →
        x.Inevitable
          (fun t => t.producer.isFinished = true ∧ ∃ result, t.result? = some result) s ∧
        ∀ after t, x.Run s after t →
          (pulls after).length ≤ x.config.batchSize ∧ t.receiving = false ∧
            (t.producer.isFinished = false → ∃ u, x.produce? t = some u)) ∧
      (s.result? = none → ∃ t, x.produce? s = some t ∨ x.consume? s = some t) := by
  refine ⟨deaf_of_awaiting run, ?_, exists_acts run⟩
  intro deaf
  refine ⟨finishes_of_deaf run deaf, fun after t second => ?_⟩
  have still := second.keeps_deaf deaf
  have bound := pulls_le_quota run deaf second
  have most := s.producer.quota_le x.config.batchSize
  exact ⟨by omega, still, exists_produce still⟩

/-- Pairs of records from a source without an end, into a queue of one batch. -/
def endlessPairs : Setup (List Item) Storage where
  config := ⟨2, 1, 10, Nat.two_pos, Nat.one_pos⟩
  source := .endless [.record [48]]
  sink := Writer.sink ⟨some [10], none⟩

/-- A producer that is blocked by a full queue is released by a cancellation. -/
theorem producer_released_pairs : ∃ before s events t,
    endlessPairs.Run (endlessPairs.start [] .empty true) before s ∧
      endlessPairs.produce? s = none ∧
      endlessPairs.Run (endlessPairs.start [] .empty true) events t ∧
      t.consumer = .joining ∧ t.receiving = false ∧ t.result? = none ∧
      endlessPairs.Inevitable
        (fun u => u.producer.isFinished = true ∧ ∃ result, u.result? = some result) t ∧
      (∀ after u, endlessPairs.Run t after u → (pulls after).length ≤ 2) ∧
      (∃ u, endlessPairs.produce? t = some u) ∧
      ∃ u, endlessPairs.produce? s = some u ∨ endlessPairs.consume? s = some u := by
  have blocked := (Run.nil (x := endlessPairs) (s := endlessPairs.start [] .empty true)).produce rfl
    |>.produce rfl |>.produce rfl |>.produce rfl |>.produce rfl
  have run := blocked.consume rfl
  obtain ⟨-, -, going⟩ := producer_released blocked
  obtain ⟨awaiting, released, -⟩ := producer_released run
  have deaf := awaiting (.inr rfl)
  obtain ⟨inevitable, onward⟩ := released deaf
  obtain ⟨-, -, free⟩ := onward [] _ .nil
  exact ⟨_, _, _, _, blocked, rfl, run, rfl, deaf, rfl, inevitable,
    fun after u second => (onward after u second).1, free rfl, going rfl⟩

end Setup

end LoadSeries
