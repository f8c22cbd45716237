import LoadSeries.Proofs.Pipeline.Inevitable
import LoadSeries.Proofs.Pipeline.Safety

/-!
How long the schedule takes that is carried out. The consumer goes first as long as it has work, so
it finds the queue empty only when the producer has finished, and each step of either actor takes
away from the steps that are left. A source of so many records is done within six steps for each.
-/
namespace LoadSeries
open Text

/-- The most steps that a producer takes with so many records in front of it, and the consumer for
the batches that they make up. -/
def Producer.toil (left : Nat) : Producer → Nat
  | .pulling batch => 6 * left + batch.size + 7
  | .sending batch false => 6 * left + batch.length + 11
  | .sending batch true => batch.length + 5
  | .ending _ => 1
  | .finished _ => 0

def Consumer.toil (guard : DrainGuard) : Consumer → Nat
  | .popped batch => batch.length + 10
  | .writing rest => rest.length + 9
  | .polling => if guard = .fresh then 8 else 6
  | .idle => if guard = .fresh then 7 else 5
  | .leaving => 2
  | .flushing | .joining => 1
  | .returned _ => 0

namespace Setup

variable {σ τ : Type} {x : Setup σ τ} {origin : σ} {into : τ} {cancelled : Bool}

def toil (left : Nat) (s : System σ τ) : Nat :=
  s.producer.toil left + (s.queue.map (·.length + 3)).sum + s.consumer.toil s.guard

/-- Nothing is queued, and nothing will be. -/
def Exhausted (s : System σ τ) : Prop := s.producer.isFinished = true ∧ s.queue = []

/-- The consumer has been idle only behind a producer that has finished. -/
def Prompt (s : System σ τ) : Prop :=
  match s.consumer with
  | .polling => s.guard = .fresh ∨ Exhausted s
  | .idle => Exhausted s
  | _ => True

/-- A producer that cannot go on although nothing is queued has finished. -/
theorem finished_of_blocked {s : System σ τ} (blocked : x.produce? s = none)
    (empty : s.queue = []) : s.producer.isFinished = true := by
  cases stage : s.producer with
  | pulling batch => simp [produce?, stage] at blocked
  | sending batch isLast =>
    have room := x.config.queueCapacity_pos
    simp only [produce?, stage, empty, List.length_nil, room, if_true] at blocked
    split at blocked <;> cases blocked
  | ending how => simp [produce?, stage] at blocked
  | finished how => rfl

theorem next?_cases {s t : System σ τ} (next : x.next? s = some t) :
    x.produce? s = some t ∨
      x.consume? s = some t ∧ (s.isStarved = true → x.produce? s = none) := by
  unfold next? at next
  split at next
  · cases produced : x.produce? s with
    | some u => exact .inl (by simpa [produced] using next)
    | none => exact .inr ⟨by simpa [produced] using next, fun _ => rfl⟩
  · rename_i fed
    cases consumed : x.consume? s with
    | some u => exact .inr ⟨by simpa [consumed] using next, fun starved => absurd starved fed⟩
    | none => exact .inl (by simpa [consumed] using next)

theorem ProducerMove.prompt {s t : System σ τ} {new : List Event} (move : x.ProducerMove s new t)
    (prompt : Prompt s) : Prompt t := by
  have same := move.frame
  have busy := same.unfinished
  unfold Prompt at prompt ⊢
  rw [same.consumer, same.guard]
  -- The producer still moves, so the consumer has not been idle.
  cases stage : s.consumer <;> simp_all [Exhausted]

theorem ConsumerMove.prompt {s t : System σ τ} {new : List Event} (move : x.ConsumerMove s new t)
    (guarded : Guarded s) (prompt : Prompt s)
    (waits : s.isStarved = true → x.produce? s = none) : Prompt t := by
  cases move with
  | starve polling going empty =>
    have blocked := waits (by simp [System.isStarved, polling, going, empty])
    have finished := finished_of_blocked blocked empty
    exact ⟨finished, empty⟩
  | wait idle busy =>
    simp only [Prompt, idle, Exhausted] at prompt
    simp [prompt.1] at busy
  | confirm idle finished again =>
    simp only [Prompt, idle, Exhausted] at prompt
    simpa [Prompt, Exhausted] using .inr prompt
  | closeBatch written =>
    simp only [Guarded, written] at guarded
    exact .inl guarded
  | _ => trivial

theorem ProducerMove.toil_lt {s t : System σ τ} {new : List Event} {left : Nat}
    (move : x.ProducerMove s new t) (bound : (pulledRecords new).length ≤ left) :
    toil (left - (pulledRecords new).length) t < toil left s := by
  have same := move.frame
  unfold toil
  rw [same.consumer, same.guard]
  refine Nat.add_lt_add_right ?_ _
  cases move with
  | fill pulling =>
    have pulled : 1 ≤ left := bound
    simp only [pulling, Producer.toil, List.length_append, List.length_singleton,
      Batch.length_toList, Event.select_singleton, Event.pulled?, Option.toList_some]
    omega
  | gather pulling =>
    have pulled : 1 ≤ left := bound
    simp only [pulling, Producer.toil, Batch.push, Event.select_singleton, Event.pulled?,
      Option.toList_some, List.length_singleton]
    omega
  | send sending =>
    simp only [sending, Producer.toil, Batch.empty, Event.select_singleton, Event.pulled?,
      Option.toList_none, List.length_nil, List.map_append, List.sum_append, List.map_cons,
      List.map_nil, List.sum_cons, List.sum_nil]
    omega
  | sendLast sending =>
    simp only [sending, Producer.toil, List.map_append, List.sum_append, List.map_cons,
      List.map_nil, List.sum_cons, List.sum_nil]
    omega
  | @giveUp batch isLast sending =>
    cases isLast <;> simp only [sending, Producer.toil] <;> omega
  | close pulling => simp only [pulling, Producer.toil, Batch.length_toList]; omega
  | exhaust pulling => simp only [pulling, Producer.toil]; omega
  | refuse pulling => simp only [pulling, Producer.toil]; omega
  | crash pulling => simp only [pulling, Producer.toil]; omega
  | finish ending => simp only [ending, Producer.toil]; omega

theorem ConsumerMove.toil_lt {s t : System σ τ} {new : List Event} {left : Nat}
    (move : x.ConsumerMove s new t) (guarded : Guarded s) (prompt : Prompt s) :
    toil left t < toil left s := by
  have producer : t.producer = s.producer := move.frame.2.1
  unfold toil
  rw [producer, Nat.add_assoc, Nat.add_assoc]
  refine Nat.add_lt_add_left ?_ _
  cases move with
  | interrupt polling =>
    simp only [polling, Consumer.toil, System.enter, System.hangUp, List.map_nil, List.sum_nil]
    split <;> omega
  | starve polling =>
    simp only [polling, Consumer.toil]
    split <;> omega
  | pop polling going queued =>
    simp only [Prompt, polling, Exhausted, queued] at prompt
    have fresh : s.guard = .fresh := prompt.resolve_right (by simp)
    simp only [polling, Consumer.toil, queued, fresh, if_true, List.map_cons, List.sum_cons]
    omega
  | drop popped =>
    simp only [popped, Consumer.toil, System.hangUp, List.map_nil, List.sum_nil]
    omega
  | closeBatch written =>
    simp only [Guarded, written] at guarded
    simp only [written, Consumer.toil, Setup.closeBatch, guarded, if_true, List.length_nil]
    omega
  | wait idle busy =>
    simp only [Prompt, idle, Exhausted] at prompt
    simp [prompt.1] at busy
  | confirm idle finished again =>
    simp only [Guarded, idle] at guarded
    rcases guarded with fresh | ⟨once, -⟩
    · simp [idle, Consumer.toil, fresh, DrainGuard.confirm, DrainGuard.fresh]
    · rw [once] at again
      exact absurd (by decide) again
  | leave idle =>
    simp only [idle, Consumer.toil, System.hangUp, List.map_nil, List.sum_nil]
    split <;> omega
  | take popped => simp [popped, Consumer.toil]
  | write writing => simp [writing, Consumer.toil]
  | stumble writing => simp [writing, Consumer.toil, System.fail, System.enter, System.hangUp]
  | settle leaving => simp [leaving, Consumer.toil]
  | settleRefused leaving => simp [leaving, Consumer.toil, System.fail, System.enter]
  | settleInterrupted leaving => simp [leaving, Consumer.toil, System.fail, System.enter]
  | settleCrashed leaving => simp [leaving, Consumer.toil, System.fail, System.enter]
  | flush flushing => simp [flushing, Consumer.toil, System.enter]
  | flushRefused flushing => simp [flushing, Consumer.toil, System.fail, System.enter]
  | join joining => simp [joining, Consumer.toil]

/-- The steps that are left behind a trace, when the source has no more records than so many. -/
def leftover (n : Nat) (events : List Event) (s : System σ τ) : Nat :=
  toil (n - (pulledRecords events).length) s

section Bounded

variable {n : Nat} {events : List Event} {s t : System σ τ}
  (bounded : ∀ records rest, x.source.Gives origin records rest → records.length ≤ n)
  (run : x.Run (x.start origin into cancelled) events s)
include run

theorem exists_next? (going : s.result? = none) : ∃ t, x.next? s = some t := by
  obtain ⟨t, taken⟩ := exists_acts run going
  unfold next?
  rcases taken with produced | consumed
  · split <;> cases consumed : x.consume? s <;> simp [produced]
  · split <;> cases produced : x.produce? s <;> simp [consumed]

include bounded

theorem next?_leftover_lt (prompt : Prompt s) (next : x.next? s = some t) :
    ∃ new, x.Run (x.start origin into cancelled) (events ++ new) t ∧ Prompt t ∧
      leftover n (events ++ new) t < leftover n events s := by
  rcases next?_cases next with taken | ⟨taken, waits⟩
  · have move := produce_move taken
    have further := run.produce taken
    obtain ⟨rest, gives⟩ := Supplied.gives (run_supplied further)
    have bound := bounded _ _ gives
    have pulled : (pulledRecords (events ++ x.produceEvents s)).length =
        (pulledRecords events).length + (pulledRecords (x.produceEvents s)).length := by
      rw [← List.length_append, ← Event.select_append]
    refine ⟨_, further, move.prompt prompt, ?_⟩
    rw [leftover, pulled, ← Nat.sub_sub]
    exact move.toil_lt (by omega)
  · have move := consume_move taken
    have guarded := run_guarded run
    obtain ⟨-, -, -, -, pulled, -⟩ := move.frame
    refine ⟨_, run.consume taken, move.prompt guarded prompt waits, ?_⟩
    simp only [leftover, Event.select_append, pulled, List.append_nil]
    exact move.toil_lt guarded prompt

theorem run_returns_of_leftover {fuel : Nat} (prompt : Prompt s)
    (enough : leftover n events s ≤ fuel) : ∃ result, (x.run fuel s).result? = some result := by
  induction fuel generalizing events s with
  | zero =>
    cases returned : s.result? with
    | some result => exact ⟨result, returned⟩
    | none =>
      -- There is a step left, but no fewer steps than none.
      obtain ⟨t, next⟩ := exists_next? run returned
      obtain ⟨new, -, -, less⟩ := next?_leftover_lt bounded run prompt next
      omega
  | succ fuel ih =>
    cases returned : s.result? with
    | some result =>
      have stage := consumer_of_result? returned
      exact ⟨result, by simp only [Setup.run, stage, returned]⟩
    | none =>
      obtain ⟨t, next⟩ := exists_next? run returned
      obtain ⟨new, further, onward, less⟩ := next?_leftover_lt bounded run prompt next
      have step : x.run (fuel + 1) s = x.run fuel t := by
        rw [Setup.run, next]
        split
        · rename_i result stage
          simp [System.result?, stage] at returned
        · rfl
      rw [step]
      exact ih further onward (by omega)

end Bounded

theorem run_returns {n : Nat} {fuel : Nat}
    (bounded : ∀ records rest, x.source.Gives origin records rest → records.length ≤ n)
    (enough : 6 * n + 15 ≤ fuel) :
    ∃ result, (x.run fuel (x.start origin into cancelled)).result? = some result := by
  refine run_returns_of_leftover bounded .nil (.inl rfl) ?_
  have start : toil n (x.start origin into cancelled) ≤ 6 * n + 15 := by
    simp only [toil, Setup.start, System.start, System.enter]
    split <;> simp [Producer.toil, Consumer.toil, Batch.empty]
  exact start.trans enough

end Setup

theorem Pipeline.exists_run {σ τ : Type} {x : Pipeline} {source : Source σ} {origin : σ}
    {sink : Sink τ} {into : τ} {n fuel : Nat} (idle : x.lifecycle = .idle)
    (queue : x.config.hasQueue = true)
    (bounded : ∀ records rest, source.Gives origin records rest → records.length ≤ n)
    (enough : 6 * n + 15 ≤ fuel) : ∃ report, x.run fuel source origin sink into = some report := by
  obtain ⟨result, returned⟩ : ∃ result, (Setup.run ⟨x.config, source, sink⟩ fuel
      (.start x.config origin into x.cancelled)).result? = some result :=
    Setup.run_returns (x := ⟨x.config, source, sink⟩) bounded enough
  simp [Pipeline.run, idle, queue, returned]

end LoadSeries
