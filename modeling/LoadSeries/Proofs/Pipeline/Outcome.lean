import LoadSeries.Proofs.Pipeline.Flow

/-!
How a run ends. Each result comes of its cause alone: success of a source that is written in full
and flushed, an encoding error or a crash of the one that the source came to, a refusal of the sink
of the last call of the sink, and an interruption of a cancellation.
-/
namespace LoadSeries
open Text

def Event.accepting (write : Bytes × Nat) : Event := .written write.1 (.ok write.2)

theorem flushed_mem_sinkCalls {events : List Event} {result : Except String Unit}
    (member : .flushed result ∈ events) : .flushed result ∈ sinkCalls events :=
  List.mem_filterMap.mpr ⟨_, member, rfl⟩

theorem not_flushed_of_calls {events : List Event} {writes : List (Bytes × Nat)}
    (calls : sinkCalls events = writes.map Event.accepting) (result : Except String Unit) :
    .flushed result ∉ events := by
  intro member
  have call := flushed_mem_sinkCalls member
  rw [calls] at call
  obtain ⟨write, -, same⟩ := List.mem_map.mp call
  cases same

namespace Sink

variable {τ : Type} {sink : Sink τ}

/-- The sink, called in this order, gives these results and is then in another state. -/
inductive Answers (sink : Sink τ) (state : τ) : List Event → τ → Prop
  | nil : Answers sink state [] state
  | written {calls : List Event} {rest next : τ} {record : Bytes} {result : Except String Nat}
      (before : Answers sink state calls rest) (answer : sink.write rest record = (result, next)) :
      Answers sink state (calls ++ [.written record result]) next
  | flushed {calls : List Event} {rest next : τ} {result : Except String Unit}
      (before : Answers sink state calls rest) (answer : sink.flush rest = (result, next)) :
      Answers sink state (calls ++ [.flushed result]) next

theorem Answers.of_nil {state rest : τ} (answers : sink.Answers state [] rest) : rest = state := by
  generalize none : ([] : List Event) = calls at answers
  cases answers with
  | nil => rfl
  | written => simp at none
  | flushed => simp at none

/-- The last call of a row, and the state in which the sink was called. -/
theorem Answers.of_snoc {state rest : τ} {calls : List Event} {call : Event}
    (answers : sink.Answers state (calls ++ [call]) rest) :
    ∃ before, sink.Answers state calls before ∧
      ((∃ record result, call = .written record result ∧
          sink.write before record = (result, rest)) ∨
        ∃ result, call = .flushed result ∧ sink.flush before = (result, rest)) := by
  generalize same : calls ++ [call] = all at answers
  cases answers with
  | nil => simp at same
  | written before answer =>
    obtain ⟨rfl, last⟩ := List.append_inj' same rfl
    cases last
    exact ⟨_, before, .inl ⟨_, _, rfl, answer⟩⟩
  | flushed before answer =>
    obtain ⟨rfl, last⟩ := List.append_inj' same rfl
    cases last
    exact ⟨_, before, .inr ⟨_, rfl, answer⟩⟩

end Sink

namespace Setup

variable {σ τ : Type} {x : Setup σ τ} {origin : σ} {into : τ} {cancelled : Bool}

/-- The one call that may follow the records accepted, by the result of the run. -/
def Closed (events : List Event) (s : System σ τ) (last : List Event) : Prop :=
  match s.consumer with
  | .returned (.ok _) => last = [.flushed (.ok ())]
  | .returned (.error (.sinkWrite records bytes reason)) =>
    records = .ofNat (acceptedWrites events).length ∧ bytes = .ofNat (acceptedBytes events) ∧
      ((∃ record, last = [.written record (.error reason)]) ∨
        last = [.flushed (.error reason)] ∧ s.producer = .finished .completed ∧
          acceptedRecords events = (sentBatches events).flatten)
  | _ => last = []

theorem Closed.length_le {events last : List Event} {s : System σ τ}
    (closed : Closed events s last) : last.length ≤ 1 := by
  unfold Closed at closed
  split at closed
  · simp [closed]
  · rcases closed.2.2 with ⟨record, refused⟩ | ⟨flushed, -⟩
    · simp [refused]
    · simp [flushed]
  · simp [closed]

/-- The calls of the sink: the records accepted, and at most one call behind them. -/
def Called (events : List Event) (s : System σ τ) : Prop :=
  ∃ last, sinkCalls events = (acceptedWrites events).map Event.accepting ++ last ∧
    Closed events s last

def Caused (events : List Event) (s : System σ τ) : PipelineError → Prop
  | .encoding error => s.producer = .finished (.refused error)
  | .producerCrashed =>
    s.producer = .finished .crashed ∧ takenBatches events = sentBatches events
  | .interrupted => s.cancelled = true
  | .sinkWrite _ _ _ => True
  | _ => False

/-- What the consumer knows once it has given up the queue. -/
def Settled (events : List Event) (s : System σ τ) : Prop :=
  match s.consumer with
  | .leaving =>
    s.aborted = true ∨
      s.producer.isFinished = true ∧ s.producer ≠ .finished .interrupted ∧
        takenBatches events = sentBatches events
  | .flushing =>
    s.producer = .finished .completed ∧ takenBatches events = sentBatches events
  | .joining => s.lifecycle = .failed ∧ s.cancelled = true
  | .returned (.ok counts) =>
    s.lifecycle = .done ∧ counts = s.progress ∧ s.producer = .finished .completed ∧
      takenBatches events = sentBatches events
  | .returned (.error error) => s.lifecycle = .failed ∧ Caused events s error
  | _ => True

private theorem settled_produce {s t : System σ τ} {events new : List Event}
    (settled : Settled events s) (move : x.ProducerMove s new t) : Settled (events ++ new) t := by
  have same := move.frame
  have unfinished := same.unfinished
  have flagged : s.aborted = true → t.aborted = true := by cases move <;> simp_all
  unfold Settled at settled ⊢
  rw [same.consumer]
  -- A producer that can still move has not finished, so nothing that is settled rests on its end.
  cases stage : s.consumer with
  | leaving =>
    simp only [stage, unfinished] at settled ⊢
    exact .inl (flagged (settled.resolve_right (by simp)))
  | returned result =>
    cases result with
    | ok counts => simp_all [Producer.isFinished]
    | error error =>
      simp only [stage] at settled ⊢
      rw [same.lifecycle]
      refine ⟨settled.1, ?_⟩
      have caused := settled.2
      cases error <;> simp_all [Caused, Producer.isFinished, same.cancelled]
  | _ => simp_all [Producer.isFinished, same.cancelled, same.lifecycle]

private theorem settled_consume {s t : System σ τ} {events new : List Event}
    (run : x.Run (x.start origin into cancelled) events s) (settled : Settled events s)
    (move : x.ConsumerMove s new t) : Settled (events ++ new) t := by
  have flagged := run_flagged run
  cases move with
  | drop popped aborted => exact .inl aborted
  | leave idle finished enough =>
    obtain ⟨-, empty⟩ := drained run idle enough
    have queued := run_queued run
    -- The queue was still held, so the producer was not interrupted and no batch was dropped.
    have hears : s.receiving = true := by rw [queued.receiving, idle]; rfl
    have heard : s.producer ≠ .finished .interrupted := by
      intro interrupted
      have supplied := run_supplied run
      simp only [Supplied, interrupted, Ended, hears] at supplied
      exact absurd supplied.1 (by simp)
    have all : takenBatches events = sentBatches events := by
      simpa [idle, empty] using (queued.fifo hears).symm
    exact .inr ⟨by simpa [System.hangUp] using finished, by simpa [System.hangUp] using heard,
      by simpa using all⟩
  | settle leaving completed =>
    simp only [Settled, leaving, flagged, completed] at settled
    simpa [Settled, completed, Producer.isFinished] using settled
  | settleRefused leaving refused => exact ⟨rfl, refused⟩
  | settleInterrupted leaving interrupted =>
    -- Nobody leaves the queue to a producer that was interrupted.
    simp [Settled, leaving, flagged, interrupted] at settled
  | settleCrashed leaving crashed =>
    simp only [Settled, leaving, flagged, crashed] at settled
    simpa [Settled, Caused, System.fail, System.enter, crashed, Producer.isFinished] using settled
  | flush flushing accepted =>
    simp only [Settled, flushing] at settled
    simpa [Settled, System.enter] using settled
  | join joining finished =>
    simp only [Settled, joining] at settled
    simpa [Settled, Caused] using settled
  | _ => simp_all [Settled, Caused, System.enter, System.hangUp, System.fail, Setup.closeBatch]

theorem run_settled {events : List Event} {s : System σ τ}
    (run : x.Run (x.start origin into cancelled) events s) : Settled events s := by
  refine run.preserves Settled ?_ (fun _ => settled_produce) settled_consume ?_
  · simp [Settled, start, System.start, System.enter]
  · intro events t _ settled
    unfold Settled at settled ⊢
    cases stage : t.consumer with
    | returned result =>
      cases result with
      | ok counts => simpa [stage] using settled
      | error error => cases error <;> simp_all [Caused]
    | _ => simp_all

private theorem called_consume {s t : System σ τ} {events new : List Event}
    (run : x.Run (x.start origin into cancelled) events s) (called : Called events s)
    (move : x.ConsumerMove s new t) : Called (events ++ new) t := by
  obtain ⟨last, calls, closed⟩ := called
  cases move with
  | write writing accepted =>
    have none : last = [] := by simpa [Closed, writing] using closed
    exact ⟨[], by simp [calls, none, Event.accepting], by simp [Closed]⟩
  | stumble writing refused =>
    have none : last = [] := by simpa [Closed, writing] using closed
    obtain ⟨records, bytes, -⟩ := run_written run
    refine ⟨[_], by simp [calls, none]; rfl, ?_⟩
    simpa [Closed, System.fail] using ⟨records, bytes⟩
  | flush flushing accepted =>
    have none : last = [] := by simpa [Closed, flushing] using closed
    exact ⟨[.flushed (.ok ())], by simp [calls, none], by simp [Closed]⟩
  | flushRefused flushing refused =>
    have none : last = [] := by simpa [Closed, flushing] using closed
    obtain ⟨records, bytes, place⟩ := run_written run
    have settled := run_settled run
    simp only [flushing] at place
    simp only [Settled, flushing] at settled
    have whole : acceptedRecords events = (sentBatches events).flatten := by
      rw [place.1, settled.2]
    refine ⟨[_], by simp [calls, none]; rfl, ?_⟩
    simpa [Closed, System.fail, System.enter] using ⟨records, bytes, settled.1, whole⟩
  | _ =>
    exact ⟨last, by simpa using calls,
      by simp_all [Closed, System.enter, System.fail, Setup.closeBatch]⟩

theorem run_called {events : List Event} {s : System σ τ}
    (run : x.Run (x.start origin into cancelled) events s) : Called events s := by
  refine run.preserves Called ?_ ?_ called_consume (fun _ called => called)
  · exact ⟨[], rfl, by simp [Closed, start, System.start, System.enter]⟩
  · rintro events t new u _ ⟨last, calls, closed⟩ move
    have same := move.frame
    have busy := same.ne_finished
    refine ⟨last, by simpa [same.calls, same.accepted] using calls, ?_⟩
    unfold Closed at closed ⊢
    rw [same.consumer]
    cases stage : t.consumer with
    | returned result =>
      cases result with
      | ok counts => simpa [stage] using closed
      | error error => cases error <;> simp_all [same.accepted]
    | _ => simpa [stage] using closed

theorem run_answers {events : List Event} {s : System σ τ}
    (run : x.Run (x.start origin into cancelled) events s) :
    x.sink.Answers into (sinkCalls events) s.sink := by
  refine run.preserves (fun events s => x.sink.Answers into (sinkCalls events) s.sink) .nil ?_ ?_
    (fun _ answers => answers)
  · intro events t new u _ answers move
    have same := move.frame
    simpa [same.calls, same.sink] using answers
  · intro events t new u _ answers move
    cases move with
    | write writing accepted => simpa using answers.written accepted
    | stumble writing refused =>
      simpa [System.fail, System.enter, System.hangUp] using answers.written refused
    | flush flushing accepted => simpa [System.enter] using answers.flushed accepted
    | flushRefused flushing refused =>
      simpa [System.fail, System.enter] using answers.flushed refused
    | _ => simpa [System.enter, System.hangUp, System.fail, Setup.closeBatch] using answers

end Setup

end LoadSeries
