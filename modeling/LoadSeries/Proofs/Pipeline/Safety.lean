import LoadSeries.Proofs.Pipeline.Outcome
import LoadSeries.Sink.Writer

/-!
Safety of every run, whatever the source brings, the sink refuses and the schedule is: the sink has
accepted the first records of the source in order, it is not called any more once it has refused
one or has been flushed, it is flushed only when a whole source has been accepted, and each result
has its one cause.
-/
namespace LoadSeries
open Text

namespace Source

variable {σ : Type} {source : Source σ}

theorem Gives.of_isPrefix {state rest : σ} {records all : List Bytes}
    (gives : source.Gives state all rest) (front : records <+: all) :
    ∃ next, source.Gives state records next := by
  induction gives generalizing records with
  | nil state =>
    rw [List.prefix_nil.mp front]
    exact ⟨state, .nil state⟩
  | @cons state next rest bytes _ found _ ih =>
    cases records with
    | nil => exact ⟨state, .nil state⟩
    | cons first others =>
      obtain ⟨rfl, tail⟩ := List.cons_prefix_cons.mp front
      obtain ⟨last, gives⟩ := ih tail
      exact ⟨last, .cons found gives⟩

end Source

namespace Event

/-- What concerns the sink alone is the same in its calls. -/
theorem select_sinkCalls {α : Type} {view : Event → Option α}
    (silent : ∀ event, event.call? = none → view event = none) (events : List Event) :
    select view (sinkCalls events) = select view events := by
  induction events with
  | nil => rfl
  | cons event rest ih =>
    simp only [select_cons, select_append, ih]
    cases event with
    | written record result => simp
    | flushed result => simp
    | pulled item => simp [silent (.pulled item) rfl]
    | sent batch => simp [silent (.sent batch) rfl]
    | taken batch => simp [silent (.taken batch) rfl]

theorem acceptedWrites_sinkCalls (events : List Event) :
    acceptedWrites (sinkCalls events) = acceptedWrites events := by
  refine select_sinkCalls (fun event silent => ?_) events
  cases event <;> simp_all

theorem acceptedWrites_eq_nil {events : List Event} (quiet : sinkCalls events = []) :
    acceptedWrites events = [] := by
  rw [← acceptedWrites_sinkCalls, quiet]
  rfl

end Event

namespace Setup

variable {σ τ : Type} {x : Setup σ τ} {origin : σ} {into : τ} {cancelled : Bool}

theorem Supplied.gives {events : List Event} {s : System σ τ}
    (supplied : x.Supplied origin events s) :
    ∃ rest, x.source.Gives origin (pulledRecords events) rest := by
  have ended (how : Ending) (ended : x.Ended origin events s.receiving how) :
      ∃ rest, x.source.Gives origin (pulledRecords events) rest := by
    cases how with
    | completed => exact ended.1.imp fun _ whole => whole.1
    | refused error => exact ended.1.imp fun _ ⟨_, whole⟩ => whole.1
    | interrupted => exact ended.2.1
    | crashed =>
      rcases ended.1 with crashes | ⟨-, none⟩
      · exact crashes.imp fun _ whole => whole.1
      · rw [none]
        exact ⟨origin, .nil origin⟩
  unfold Supplied at supplied
  split at supplied
  · exact ⟨_, supplied.1⟩
  · exact ⟨_, supplied.1⟩
  · exact ended _ supplied
  · exact ended _ supplied

theorem Supplied.sent_isPrefix {events : List Event} {s : System σ τ}
    (supplied : x.Supplied origin events s) :
    (sentBatches events).flatten <+: pulledRecords events := by
  have ended (how : Ending) (ended : x.Ended origin events s.receiving how) :
      (sentBatches events).flatten <+: pulledRecords events := by
    cases how with
    | completed => exact ended.2.1 ▸ List.prefix_rfl
    | interrupted => exact ended.2.2
    | _ =>
      obtain ⟨-, -, unsent, pulled, -⟩ := ended
      exact ⟨unsent, pulled.symm⟩
  unfold Supplied at supplied
  split at supplied
  · exact ⟨_, supplied.2.1.symm⟩
  · exact ⟨_, supplied.2.1.symm⟩
  · exact ended _ supplied
  · exact ended _ supplied

theorem Written.isPrefix {events : List Event} {s : System σ τ} (written : Written events s) :
    acceptedRecords events <+: (takenBatches events).flatten := by
  obtain ⟨-, -, place⟩ := written
  split at place
  · exact ⟨_, place.1⟩
  · exact place
  · exact place.1 ▸ List.prefix_rfl

/-- What the sink accepted is the front of what the source brought. -/
theorem accepted_isPrefix {events : List Event} {s : System σ τ}
    (run : x.Run (x.start origin into cancelled) events s) :
    acceptedRecords events <+: pulledRecords events := by
  obtain ⟨later, sent⟩ := (run_queued run).taken
  have front : (takenBatches events).flatten <+: (sentBatches events).flatten :=
    ⟨later.flatten, by rw [← List.flatten_append, sent]⟩
  exact ((run_written run).isPrefix.trans front).trans (run_supplied run).sent_isPrefix

theorem accepted_gives {events : List Event} {s : System σ τ}
    (run : x.Run (x.start origin into cancelled) events s) :
    ∃ rest, x.source.Gives origin (acceptedRecords events) rest := by
  obtain ⟨rest, gives⟩ := (run_supplied run).gives
  exact gives.of_isPrefix (accepted_isPrefix run)

theorem exhausts_of_completed {events : List Event} {s : System σ τ}
    (run : x.Run (x.start origin into cancelled) events s)
    (completed : s.producer = .finished .completed)
    (whole : acceptedRecords events = (sentBatches events).flatten) :
    x.source.Exhausts origin (acceptedRecords events) := by
  have supplied := run_supplied run
  simp only [Supplied, completed, Ended] at supplied
  obtain ⟨exhausts, pulled, -⟩ := supplied
  rwa [whole, ← pulled]

/-- The sink is flushed, with whatever result, only when a whole source is accepted. -/
theorem exhausts_of_flushed {events : List Event} {s : System σ τ} {result : Except String Unit}
    (run : x.Run (x.start origin into cancelled) events s)
    (closed : Closed events s [.flushed result]) :
    x.source.Exhausts origin (acceptedRecords events) := by
  have written := (run_written run).2.2
  have settled := run_settled run
  -- Only a success and a refused flush close the calls with a flush.
  unfold Closed at closed
  split at closed
  · rename_i stage
    simp only [Settled, stage] at settled
    simp only [stage] at written
    exact exhausts_of_completed run settled.2.2.1 (by rw [written.1, settled.2.2.2])
  · obtain ⟨-, -, ⟨record, refused⟩ | ⟨-, completed, whole⟩⟩ := closed
    · simp at refused
    · exact exhausts_of_completed run completed whole
  · simp at closed

private theorem last_of_append {α : Type} {front back writes last : List α} {call : α}
    (same : front ++ call :: back = writes ++ last) (absent : call ∉ writes)
    (short : last.length ≤ 1) : back = [] ∧ last = [call] := by
  rcases List.append_eq_append_iff.mp same with ⟨more, writes_eq, tail⟩ | ⟨more, -, tail⟩
  · -- The call lies behind the writes, unless it is one of them.
    cases more with
    | nil =>
      rw [List.nil_append] at tail
      rw [← tail, List.length_cons] at short
      have quiet := List.length_eq_zero_iff.mp (by omega : back.length = 0)
      exact ⟨quiet, by rw [← tail, quiet]⟩
    | cons first others =>
      obtain ⟨rfl, -⟩ := List.cons.inj tail
      exact absurd (by simp [writes_eq]) absent
  · rw [tail, List.length_append, List.length_cons] at short
    have none := List.length_eq_zero_iff.mp (by omega : more.length = 0)
    have quiet := List.length_eq_zero_iff.mp (by omega : back.length = 0)
    exact ⟨quiet, by rw [tail, none, quiet, List.nil_append]⟩

/-- A call that is no accepted write is the last one. -/
private theorem last_call {events before after : List Event} {s : System σ τ} {call : Event}
    (run : x.Run (x.start origin into cancelled) events s)
    (split : events = before ++ call :: after) (counts : call.call? = some call)
    (refused : call.accepted? = none) :
    sinkCalls after = [] ∧ Closed events s [call] ∧
      acceptedWrites events = acceptedWrites before := by
  obtain ⟨last, calls, closed⟩ := run_called run
  have parts : sinkCalls before ++ call :: sinkCalls after =
      (acceptedWrites events).map Event.accepting ++ last := by
    rw [← calls, split]
    simp only [Event.select_append, Event.select_cons, counts, Option.toList_some,
      List.singleton_append]
  have absent : call ∉ (acceptedWrites events).map Event.accepting := by
    intro member
    obtain ⟨write, -, rfl⟩ := List.mem_map.mp member
    cases refused
  obtain ⟨quiet, rfl⟩ := last_of_append parts absent closed.length_le
  refine ⟨quiet, closed, ?_⟩
  rw [split]
  simp only [Event.select_append, Event.select_cons, refused, Option.toList_none,
    Event.acceptedWrites_eq_nil quiet, List.append_nil]

def Forced (x : Setup σ τ) (origin : σ) (events : List Event) (s : System σ τ) :
    Except PipelineError Progress → Prop
  | .ok _ =>
    x.source.Exhausts origin (acceptedRecords events) ∧ .flushed (.ok ()) ∈ events
  | .error (.encoding error) => ∃ records, x.source.Refuses origin records error
  | .error .producerCrashed =>
    (∃ records, x.source.Crashes origin records) ∨ x.config.hasRoom = false
  | .error (.sinkWrite records bytes reason) =>
    records = .ofNat (acceptedRecords events).length ∧ bytes = .ofNat (acceptedBytes events) ∧
      ((∃ record, .written record (.error reason) ∈ events) ∨ .flushed (.error reason) ∈ events)
  | .error .interrupted => s.cancelled = true
  | .error _ => False

theorem consumer_of_result? {s : System σ τ} {result : Except PipelineError Progress}
    (returned : s.result? = some result) : s.consumer = .returned result := by
  unfold System.result? at returned
  split at returned <;> simp_all

theorem result_forced {events : List Event} {s : System σ τ}
    {result : Except PipelineError Progress}
    (run : x.Run (x.start origin into cancelled) events s) (returned : s.result? = some result) :
    x.Forced origin events s result := by
  have stage := consumer_of_result? returned
  have settled := run_settled run
  have supplied := run_supplied run
  obtain ⟨last, calls, closed⟩ := run_called run
  have call {event : Event} (only : last = [event]) : event ∈ events := by
    have member : event ∈ sinkCalls events := by simp [calls, only]
    obtain ⟨other, inside, seen⟩ := List.mem_filterMap.mp member
    cases other <;> simp_all
  cases result with
  | ok counts =>
    simp only [Settled, stage] at settled
    simp only [Closed, stage] at closed
    obtain ⟨-, -, completed, all⟩ := settled
    have written := (run_written run).2.2
    simp only [stage] at written
    exact ⟨exhausts_of_completed run completed (by rw [written.1, all]), call closed⟩
  | error error =>
    simp only [Settled, stage] at settled
    obtain ⟨-, caused⟩ := settled
    cases error with
    | encoding error =>
      have refused : s.producer = .finished (.refused error) := caused
      simp only [Supplied, refused, Ended] at supplied
      exact ⟨_, supplied.1⟩
    | producerCrashed =>
      simp only [Supplied, caused.1, Ended] at supplied
      exact supplied.1.imp (fun crashes => ⟨_, crashes⟩) And.left
    | interrupted => exact caused
    | sinkWrite records bytes reason =>
      simp only [Closed, stage] at closed
      obtain ⟨records_eq, bytes_eq, ⟨record, refused⟩ | ⟨flushed, -⟩⟩ := closed
      · exact ⟨by simpa using records_eq, bytes_eq, .inl ⟨record, call refused⟩⟩
      · exact ⟨by simpa using records_eq, bytes_eq, .inr (call flushed)⟩
    | config cause => exact caused
    | alreadyStarted state => exact caused

/-- What a run that is not cancelled may come to, with the cause of each. -/
theorem result_cases {events : List Event} {s : System σ τ}
    {result : Except PipelineError Progress}
    (run : x.Run (x.start origin into cancelled) events s) (returned : s.result? = some result)
    (uncancelled : s.cancelled = false) :
    (∃ counts, result = .ok counts ∧ x.source.Exhausts origin (acceptedRecords events)) ∨
      (∃ error records, result = .error (.encoding error) ∧
        x.source.Refuses origin records error) ∨
      (result = .error .producerCrashed ∧
        ((∃ records, x.source.Crashes origin records) ∨ x.config.hasRoom = false)) ∨
      ∃ records bytes reason, result = .error (.sinkWrite records bytes reason) ∧
        ((∃ record, .written record (.error reason) ∈ events) ∨
          .flushed (.error reason) ∈ events) := by
  have forced := result_forced run returned
  cases result with
  | ok counts => exact .inl ⟨counts, rfl, forced.1⟩
  | error cause =>
    cases cause with
    | encoding error =>
      obtain ⟨records, refuses⟩ := forced
      exact .inr (.inl ⟨error, records, rfl, refuses⟩)
    | producerCrashed => exact .inr (.inr (.inl ⟨rfl, forced⟩))
    | sinkWrite records bytes reason =>
      exact .inr (.inr (.inr ⟨records, bytes, reason, rfl, forced.2.2⟩))
    | interrupted =>
      have seen : s.cancelled = true := forced
      simp [seen] at uncancelled
    | config cause => exact forced.elim
    | alreadyStarted state => exact forced.elim

/-- A run that fails, but not by the sink, has written what it took and has not been flushed. -/
theorem failed_of_error {events : List Event} {s : System σ τ} {error : PipelineError}
    (run : x.Run (x.start origin into cancelled) events s)
    (returned : s.result? = some (.error error))
    (unrefused : ∀ records bytes reason, error ≠ .sinkWrite records bytes reason) :
    s.lifecycle = .failed ∧ Caused events s error ∧
      acceptedRecords events = (takenBatches events).flatten ∧
      ∀ flush, .flushed flush ∉ events := by
  have stage := consumer_of_result? returned
  have settled := run_settled run
  obtain ⟨-, -, place⟩ := run_written run
  obtain ⟨last, calls, closed⟩ := run_called run
  simp only [Settled, stage] at settled
  have whole : last = [] ∧ acceptedRecords events = (takenBatches events).flatten := by
    simp only [Closed, stage] at closed
    simp only [stage] at place
    cases error with
    | sinkWrite records bytes reason => exact absurd rfl (unrefused records bytes reason)
    | _ => exact ⟨closed, place.1⟩
  obtain ⟨rfl, accepted⟩ := whole
  rw [List.append_nil] at calls
  exact ⟨settled.1, settled.2, accepted, not_flushed_of_calls calls⟩

/-- In every reachable state the sink has had the calls of the trace, the records it accepted are
the first ones of the source, no call follows a refused write or a flush, a flush follows the
acceptance of a whole source, and the result, if there is one, has its cause. -/
theorem prefix_safe {events : List Event} {s : System σ τ}
    (run : x.Run (x.start origin into cancelled) events s) :
    x.sink.Answers into (sinkCalls events) s.sink ∧
      (∃ rest, x.source.Gives origin (acceptedRecords events) rest) ∧
      (∀ before record reason after,
        events = before ++ .written record (.error reason) :: after → sinkCalls after = []) ∧
      (∀ before result after, events = before ++ .flushed result :: after →
        sinkCalls after = [] ∧ x.source.Exhausts origin (acceptedRecords before)) ∧
      ∀ result, s.result? = some result → x.Forced origin events s result := by
  refine ⟨run_answers run, accepted_gives run, ?_, ?_,
    fun result returned => result_forced run returned⟩
  · intro before record reason after split
    exact (last_call run split rfl rfl).1
  · intro before result after split
    obtain ⟨quiet, closed, same⟩ := last_call run split rfl rfl
    have exhausts := exhausts_of_flushed run closed
    exact ⟨quiet, by simpa only [acceptedRecords, same] using exhausts⟩

def broken : Setup (List Item) Storage where
  config := ⟨1, 1, 10, Nat.one_pos, Nat.one_pos⟩
  source := .listed
  sink := Writer.sink ⟨some [10], none⟩

def brokenItems : List Item := [.record [48], .record [49], .refused .emptyFieldCatalog]

theorem prefix_safe_broken : ∃ events s,
    broken.Run (broken.start brokenItems .empty false) events s ∧
      s.result? = some (.error (.encoding .emptyFieldCatalog)) ∧
      (∃ rest, broken.source.Gives brokenItems (acceptedRecords events) rest) ∧
      broken.Forced brokenItems events s (.error (.encoding .emptyFieldCatalog)) := by
  obtain ⟨events, run⟩ := run_run broken 40 (broken.start brokenItems .empty false)
  have safe := prefix_safe run
  have returned : (broken.run 40 (broken.start brokenItems .empty false)).result? =
      some (.error (.encoding .emptyFieldCatalog)) := by rfl
  exact ⟨events, _, run, returned, safe.2.1, safe.2.2.2.2 _ returned⟩

def roomless : Setup (List Item) Storage where
  config := ⟨384307168202282326, 2, 10, by decide, Nat.two_pos⟩
  source := .listed
  sink := Writer.sink ⟨none, none⟩

def threeRecords : List Bytes := [[48], [49], [50]]

/-- Without room for a batch the producer crashes, although the source does not. -/
theorem crashed_without_crash : ∃ events s,
    roomless.Run (roomless.start (threeRecords.map .record) .empty false) events s ∧
      s.result? = some (.error .producerCrashed) ∧
      ∀ records, ¬ roomless.source.Crashes (threeRecords.map .record) records := by
  obtain ⟨events, run⟩ :=
    run_run roomless 40 (roomless.start (threeRecords.map .record) .empty false)
  have returned :
      (roomless.run 40 (roomless.start (threeRecords.map .record) .empty false)).result? =
        some (.error .producerCrashed) := by rfl
  exact ⟨events, _, run, returned, fun _ => (Source.listed_exhausts threeRecords).not_crashes⟩

end Setup

end LoadSeries
