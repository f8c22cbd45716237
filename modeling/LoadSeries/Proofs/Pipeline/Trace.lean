import LoadSeries.Pipeline.Run
import Mathlib

/-!
Runs with their traces. A trace lists what a run did to its source, its queue and its sink, in
order; a run takes steps of the two actors, and cancellations, in any order. Every run that the
executable schedule takes is one of these.
-/
namespace LoadSeries
open Text

def Pull.item? {σ : Type} : Pull σ → Option Item
  | .finished => none
  | .record bytes _ => some (.record bytes)
  | .refused error _ => some (.refused error)
  | .crashed => some .crash

inductive Event where
  | pulled (item : Option Item)
  | sent (batch : List Bytes)
  /-- A batch from the queue is going to be written. -/
  | taken (batch : List Bytes)
  | written (record : Bytes) (result : Except String Nat)
  | flushed (result : Except String Unit)

namespace Event

def pull? : Event → Option (Option Item)
  | pulled item => some item
  | _ => none

def pulled? : Event → Option Bytes
  | pulled (some (.record bytes)) => some bytes
  | _ => none

def sent? : Event → Option (List Bytes)
  | sent batch => some batch
  | _ => none

def taken? : Event → Option (List Bytes)
  | taken batch => some batch
  | _ => none

/-- A record that the sink accepted, with the bytes that it takes up. -/
def accepted? : Event → Option (Bytes × Nat)
  | written record (.ok bytes) => some (record, bytes)
  | _ => none

def call? : Event → Option Event
  | written record result => some (written record result)
  | flushed result => some (flushed result)
  | _ => none

attribute [simp] pull? pulled? sent? taken? accepted? call?

def select {α : Type} (view : Event → Option α) (events : List Event) : List α :=
  events.filterMap view

@[simp] theorem select_nil {α : Type} (view : Event → Option α) : select view [] = [] := rfl

@[simp] theorem select_singleton {α : Type} (view : Event → Option α) (event : Event) :
    select view [event] = (view event).toList := by
  cases seen : view event <;> simp [select, seen]

theorem select_cons {α : Type} (view : Event → Option α) (event : Event) (rest : List Event) :
    select view (event :: rest) = (view event).toList ++ select view rest := by
  cases seen : view event <;> simp [select, seen]

@[simp] theorem select_append {α : Type} (view : Event → Option α) (before after : List Event) :
    select view (before ++ after) = select view before ++ select view after :=
  List.filterMap_append

end Event

abbrev pulls : List Event → List (Option Item) := Event.select Event.pull?

abbrev pulledRecords : List Event → List Bytes := Event.select Event.pulled?

abbrev sentBatches : List Event → List (List Bytes) := Event.select Event.sent?

abbrev takenBatches : List Event → List (List Bytes) := Event.select Event.taken?

abbrev acceptedWrites : List Event → List (Bytes × Nat) := Event.select Event.accepted?

abbrev acceptedRecords (events : List Event) : List Bytes := (acceptedWrites events).map (·.1)

abbrev acceptedBytes (events : List Event) : Nat := ((acceptedWrites events).map (·.2)).sum

attribute [simp] acceptedRecords acceptedBytes

abbrev sinkCalls : List Event → List Event := Event.select Event.call?

theorem pulledRecords_eq_nil {events : List Event} (quiet : pulls events = []) :
    pulledRecords events = [] := by
  refine List.filterMap_eq_nil_iff.mpr ?_
  intro event member
  have none : event.pull? = none := List.filterMap_eq_nil_iff.mp quiet event member
  cases event with
  | pulled item => cases none
  | _ => rfl

namespace Setup

variable {σ τ : Type}

def produceEvents (x : Setup σ τ) (s : System σ τ) : List Event :=
  match s.producer with
  | .pulling _ => [.pulled (x.source s.source).item?]
  | .sending batch _ => if s.receiving then [.sent batch] else []
  | _ => []

def consumeEvents (x : Setup σ τ) (s : System σ τ) : List Event :=
  match s.consumer with
  | .popped batch => if s.aborted then [] else [.taken batch]
  | .writing (record :: _) => [.written record (x.sink.write s.sink record).1]
  | .flushing => [.flushed (x.sink.flush s.sink).1]
  | _ => []

/-- A run from a state on, with its trace. -/
inductive Run (x : Setup σ τ) (s : System σ τ) : List Event → System σ τ → Prop
  | nil : Run x s [] s
  | produce {events : List Event} {t u : System σ τ} (run : Run x s events t)
      (taken : x.produce? t = some u) : Run x s (events ++ x.produceEvents t) u
  | consume {events : List Event} {t u : System σ τ} (run : Run x s events t)
      (taken : x.consume? t = some u) : Run x s (events ++ x.consumeEvents t) u
  | cancel {events : List Event} {t : System σ τ} (run : Run x s events t) :
      Run x s events { t with cancelled := true }

/-- Runs are the sequences of steps: a trace leaves no step out and adds none. -/
theorem exists_run_iff (x : Setup σ τ) (s t : System σ τ) :
    (∃ events, x.Run s events t) ↔ Relation.ReflTransGen x.Step s t := by
  constructor
  · rintro ⟨events, run⟩
    induction run with
    | nil => exact .refl
    | produce _ taken ih => exact ih.tail (.produce taken)
    | consume _ taken ih => exact ih.tail (.consume taken)
    | cancel _ ih => exact ih.tail (.cancel _)
  · intro steps
    induction steps with
    | refl => exact ⟨[], .nil⟩
    | tail _ step ih =>
      obtain ⟨events, run⟩ := ih
      cases step with
      | produce taken => exact ⟨_, run.produce taken⟩
      | consume taken => exact ⟨_, run.consume taken⟩
      | cancel => exact ⟨_, run.cancel⟩

theorem Run.trans {x : Setup σ τ} {s t u : System σ τ} {before after : List Event}
    (first : x.Run s before t) (second : x.Run t after u) : x.Run s (before ++ after) u := by
  induction second with
  | nil => simpa using first
  | produce _ taken ih => simpa only [List.append_assoc] using ih.produce taken
  | consume _ taken ih => simpa only [List.append_assoc] using ih.consume taken
  | cancel _ ih => exact ih.cancel

theorem step_of_next? {x : Setup σ τ} {s t : System σ τ} (next : x.next? s = some t) :
    x.produce? s = some t ∨ x.consume? s = some t := by
  unfold next? at next
  split at next <;> cases produced : x.produce? s <;> cases consumed : x.consume? s <;>
    simp_all

theorem next?_run {x : Setup σ τ} {s t : System σ τ} (next : x.next? s = some t) :
    ∃ events, x.Run s events t := by
  rcases step_of_next? next with taken | taken
  · exact ⟨_, .produce .nil taken⟩
  · exact ⟨_, .consume .nil taken⟩

theorem run_run (x : Setup σ τ) (fuel : Nat) (s : System σ τ) :
    ∃ events, x.Run s events (x.run fuel s) := by
  induction fuel generalizing s with
  | zero => exact ⟨[], .nil⟩
  | succ fuel ih =>
    unfold run
    split
    · exact ⟨[], .nil⟩
    · split
      · rename_i t next
        obtain ⟨before, first⟩ := next?_run next
        obtain ⟨after, second⟩ := ih t
        exact ⟨before ++ after, first.trans second⟩
      · exact ⟨[], .nil⟩

end Setup

namespace Pipeline

variable {σ τ : Type}

/-- A run of a pipeline, by any schedule, and the report that it leaves once it has returned. -/
inductive Reports (x : Pipeline) (source : Source σ) (origin : σ) (sink : Sink τ) (into : τ) :
    List Event → Report τ → Prop
  | refused (started : x.lifecycle ≠ .idle) :
      Reports x source origin sink into []
        ⟨.error (.alreadyStarted x.lifecycle), [], x, into⟩
  | returned {events : List Event} {final : System σ τ} {result : Except PipelineError Progress}
      (idle : x.lifecycle = .idle) (queue : x.config.hasQueue = true)
      (run : Setup.Run ⟨x.config, source, sink⟩ (.start x.config origin into x.cancelled) events
        final)
      (returned : final.result? = some result) :
      Reports x source origin sink into events
        ⟨result, final.transitions, ⟨x.config, final.lifecycle, final.cancelled⟩, final.sink⟩

/-- The schedule that is carried out leaves a report of some run. -/
theorem run_reports {x : Pipeline} {fuel : Nat} {source : Source σ} {origin : σ} {sink : Sink τ}
    {into : τ} {report : Report τ} (ran : x.run fuel source origin sink into = some report) :
    ∃ events, x.Reports source origin sink into events report := by
  unfold run at ran
  split at ran
  · rename_i started
    cases ran
    exact ⟨[], .refused started⟩
  · rename_i idle
    split at ran
    · cases ran
    · rename_i queue
      obtain ⟨result, returned, rfl⟩ := Option.map_eq_some_iff.mp ran
      obtain ⟨events, run⟩ := Setup.run_run ⟨x.config, source, sink⟩ fuel
        (.start x.config origin into x.cancelled)
      exact ⟨events, .returned (by simpa using idle) (by simpa using queue) run returned⟩

end Pipeline

end LoadSeries
