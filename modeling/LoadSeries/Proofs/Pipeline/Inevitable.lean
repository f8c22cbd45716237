import LoadSeries.Proofs.Pipeline.Flow

/-!
Runs that must return. A run that has not returned is never stuck: one of the two actors can take a
step. Once a run is cancelled, the consumer takes no more batches from the queue, and so each step
takes away from the work that is left. Whatever the schedule is, such a run returns.
-/
namespace LoadSeries

/-- More steps than the producer can take into a queue with so much room left. -/
def Producer.work (size room : Nat) : Producer → Nat
  | .pulling batch => room * (size + 2) + (size - batch.size) + 3
  | .sending _ _ => room * (size + 2) + 2
  | .ending _ => 1
  | .finished _ => 0

theorem Producer.work_mono (producer : Producer) (size : Nat) {less room : Nat}
    (le : less ≤ room) : producer.work size less ≤ producer.work size room := by
  have scaled : less * (size + 2) ≤ room * (size + 2) := Nat.mul_le_mul_right _ le
  cases producer with
  | pulling batch => exact Nat.add_le_add_right (Nat.add_le_add_right scaled _) _
  | sending batch isLast => exact Nat.add_le_add_right scaled _
  | ending how => exact Nat.le_refl _
  | finished how => exact Nat.le_refl _

/-- The most steps that a consumer takes which comes upon a cancellation at its next poll. -/
def Consumer.work : Consumer → Nat
  | .popped batch => batch.length + 5
  | .writing rest => rest.length + 4
  | .idle => 4
  | .polling => 3
  | .leaving => 2
  | .flushing | .joining => 1
  | .returned _ => 0

namespace Setup

variable {σ τ : Type} {x : Setup σ τ} {origin : σ} {into : τ} {cancelled : Bool}

/-- A step of one of the two actors. -/
def Acts (x : Setup σ τ) (s t : System σ τ) : Prop :=
  x.produce? s = some t ∨ x.consume? s = some t

/-- However the two actors go on, they come to such a state. -/
inductive Inevitable (x : Setup σ τ) (goal : System σ τ → Prop) : System σ τ → Prop
  | now {s : System σ τ} (reached : goal s) : Inevitable x goal s
  | later {s : System σ τ} (possible : ∃ t, x.Acts s t)
      (always : ∀ t, x.Acts s t → Inevitable x goal t) : Inevitable x goal s

theorem Acts.run {s t : System σ τ} (acts : x.Acts s t) : ∃ events, x.Run s events t := by
  rcases acts with taken | taken
  · exact ⟨_, .produce .nil taken⟩
  · exact ⟨_, .consume .nil taken⟩

/-- What is inevitable may be replaced by what it implies in the states that can be reached. -/
theorem Inevitable.imp {goal other : System σ τ → Prop} {s : System σ τ}
    (inevitable : x.Inevitable goal s)
    (implies : ∀ events t, x.Run s events t → goal t → other t) : x.Inevitable other s := by
  induction inevitable with
  | now reached => exact .now (implies [] _ .nil reached)
  | later possible _ ih =>
    refine .later possible fun t acts => ?_
    obtain ⟨before, first⟩ := acts.run
    exact ih t acts fun after u second => implies (before ++ after) u (first.trans second)

/-- A producer that nobody listens to is not blocked. -/
theorem exists_produce {s : System σ τ} (deaf : s.receiving = false)
    (busy : s.producer.isFinished = false) : ∃ t, x.produce? s = some t := by
  cases stage : s.producer with
  | pulling batch => simp [produce?, stage]
  | sending batch isLast => simp [produce?, stage, deaf]
  | ending how => simp [produce?, stage]
  | finished how => simp [stage, Producer.isFinished] at busy

/-- A consumer that holds the queue is not blocked, and none is once the producer has finished. -/
theorem exists_consume {s : System σ τ} (going : s.result? = none)
    (free : s.consumer.isOpen = true ∨ s.producer.isFinished = true) :
    ∃ t, x.consume? s = some t := by
  cases stage : s.consumer with
  | polling => simp [consume?, stage]
  | popped batch => simp [consume?, stage]
  | writing rest => cases rest <;> simp [consume?, stage]
  | idle => simp [consume?, stage]
  | leaving =>
    have finished := free.resolve_left (by simp [stage])
    cases ended : s.producer with
    | finished how => cases how <;> simp [consume?, stage, settle?, ended]
    | _ => simp [ended, Producer.isFinished] at finished
  | flushing => simp [consume?, stage]
  | joining =>
    have finished := free.resolve_left (by simp [stage])
    simp [consume?, stage, finished]
  | returned result => simp [System.result?, stage] at going

/-- A run that has not returned is not stuck. -/
theorem exists_acts {events : List Event} {s : System σ τ}
    (run : x.Run (x.start origin into cancelled) events s) (going : s.result? = none) :
    ∃ t, x.Acts s t := by
  by_cases free : s.consumer.isOpen = true ∨ s.producer.isFinished = true
  · obtain ⟨t, taken⟩ := exists_consume going free
    exact ⟨t, .inr taken⟩
  · obtain ⟨closed, busy⟩ := not_or.mp free
    have deaf : s.receiving = false := by
      rw [(run_queued run).receiving]
      exact Bool.eq_false_iff.mpr closed
    obtain ⟨t, taken⟩ := exists_produce deaf (Bool.eq_false_iff.mpr busy)
    exact ⟨t, .inl taken⟩

/-- How many batches more the queue takes. -/
def room (x : Setup σ τ) (s : System σ τ) : Nat :=
  if s.receiving then x.config.queueCapacity - s.queue.length else 0

def work (x : Setup σ τ) (s : System σ τ) : Nat :=
  s.producer.work x.config.batchSize (x.room s) + s.consumer.work

/-- Once the run is cancelled, no room is gained in the queue. -/
theorem ConsumerMove.room_le {s t : System σ τ} {new : List Event}
    (move : x.ConsumerMove s new t) (seen : s.cancelled = true) : x.room t ≤ x.room s := by
  cases move with
  | pop polling going queued => simp [seen] at going
  | interrupt | drop | stumble | leave => exact Nat.zero_le _
  | confirm => simp [room]
  | _ => exact Nat.le_refl _

theorem ConsumerMove.work_lt {s t : System σ τ} {new : List Event}
    (move : x.ConsumerMove s new t) (seen : s.cancelled = true) : x.work t < x.work s := by
  have less : t.consumer.work < s.consumer.work := by
    cases move <;>
      simp_all [Consumer.work, System.enter, System.hangUp, System.fail, Setup.closeBatch]
  have producer : t.producer = s.producer := move.frame.2.1
  have other := s.producer.work_mono x.config.batchSize (move.room_le seen)
  unfold work
  rw [producer]
  exact Nat.add_lt_add_of_le_of_lt other less

/-- Each batch sent takes up room in the queue, and each record pulled takes up room in a batch. -/
theorem ProducerMove.work_lt {s t : System σ τ} {new : List Event}
    (move : x.ProducerMove s new t)
    (short : ∀ batch, s.producer = .pulling batch → batch.size < x.config.batchSize) :
    x.work t < x.work s := by
  have consumer := move.frame.consumer
  unfold work
  rw [consumer]
  refine Nat.add_lt_add_right ?_ _
  cases move with
  | @gather batch bytes rest pulling found room =>
    have less := short batch pulling
    simp only [Producer.work, pulling, Setup.room, Batch.push]
    omega
  | send sending receiving room =>
    have left : x.config.queueCapacity - s.queue.length =
        x.config.queueCapacity - (s.queue.length + 1) + 1 := by omega
    simp only [sending, Producer.work, Setup.room, receiving, if_true, List.length_append,
      List.length_singleton, Batch.empty, left, Nat.add_mul]
    omega
  | fill pulling => simp only [Producer.work, pulling, Setup.room]; omega
  | close pulling => simp only [Producer.work, pulling, Setup.room]; omega
  | exhaust pulling => simp only [Producer.work, pulling]; omega
  | refuse pulling => simp only [Producer.work, pulling]; omega
  | crash pulling => simp only [Producer.work, pulling]; omega
  | giveUp sending => simp only [Producer.work, sending]; omega
  | sendLast sending => simp only [Producer.work, sending]; omega
  | finish ending => simp only [Producer.work, ending]; omega

theorem produce_work_lt {events : List Event} {s t : System σ τ}
    (run : x.Run (x.start origin into cancelled) events s) (taken : x.produce? s = some t) :
    x.work t < x.work s := by
  refine (produce_move taken).work_lt fun batch pulling => ?_
  have supplied := run_supplied run
  simp only [Supplied, pulling] at supplied
  exact supplied.2.2.2

/-- If each step takes away from the work and keeps what this rests on, and if there is always a
step in front of the goal, then the goal is inevitable. -/
theorem inevitable_of_work (held : System σ τ → Prop) {goal : System σ τ → Prop}
    {events : List Event} {s : System σ τ}
    (run : x.Run (x.start origin into cancelled) events s) (here : held s)
    (possible : ∀ {events t}, x.Run (x.start origin into cancelled) events t → held t →
      ¬ goal t → ∃ u, x.Acts t u)
    (onward : ∀ {events t u}, x.Run (x.start origin into cancelled) events t → held t →
      x.Acts t u → held u ∧ x.work u < x.work t) : x.Inevitable goal s := by
  induction left : x.work s using Nat.strong_induction_on generalizing events s with
  | _ bound ih =>
    by_cases reached : goal s
    · exact .now reached
    · refine .later (possible run here reached) fun t acts => ?_
      obtain ⟨there, less⟩ := onward run here acts
      rcases acts with taken | taken
      · exact ih _ (left ▸ less) (run.produce taken) there rfl
      · exact ih _ (left ▸ less) (run.consume taken) there rfl

end Setup

end LoadSeries
