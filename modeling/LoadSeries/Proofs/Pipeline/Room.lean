import LoadSeries.Proofs.Pipeline.Safety

/-!
Runs without room for a batch. The producer crashes in front of the first pull, so that nothing
comes into the queue and the sink is never called. Unless it is cancelled, such a run fails with
that crash, whatever the source and the sink are.
-/
namespace LoadSeries
open Text

/-- A run that came to nothing: it failed with a crash, and had neither pulled nor written. -/
structure Barren (events : List Event) (lifecycle : Lifecycle)
    (result : Except PipelineError Progress) : Prop where
  crashed : result = .error .producerCrashed
  failed : lifecycle = .failed
  unpulled : pulls events = []
  uncalled : sinkCalls events = []

namespace Setup

variable {σ τ : Type} {x : Setup σ τ} {origin : σ} {into : τ} {cancelled : Bool}

/-- What a run without room comes to: no batch is made, so that none is taken or flushed. -/
structure Stalled (events : List Event) (s : System σ τ) : Prop where
  producer : s.producer = .ending .crashed ∨ s.producer = .finished .crashed
  queue : s.queue = []
  empty : ∀ batch, s.consumer ≠ .popped batch ∧ s.consumer ≠ .writing batch
  unflushed : s.consumer ≠ .flushing
  unpulled : pulls events = []
  uncalled : sinkCalls events = []

theorem Stalled.acceptedRecords_eq_nil {events : List Event} {s : System σ τ}
    (stalled : Stalled events s) : acceptedRecords events = [] := by
  rw [acceptedRecords, Event.acceptedWrites_eq_nil stalled.uncalled, List.map_nil]

private theorem stalled_produce {s t : System σ τ} {events new : List Event}
    (stalled : Stalled events s) (move : x.ProducerMove s new t) : Stalled (events ++ new) t := by
  obtain ⟨producer, queue, empty, unflushed, unpulled, uncalled⟩ := stalled
  -- All that is left for the producer is to finish.
  cases move with
  | finish ending => constructor <;> simp_all
  | _ => simp_all

private theorem stalled_consume {s t : System σ τ} {events new : List Event}
    (stalled : Stalled events s) (move : x.ConsumerMove s new t) : Stalled (events ++ new) t := by
  obtain ⟨producer, queue, empty, unflushed, unpulled, uncalled⟩ := stalled
  obtain ⟨-, same, -⟩ := move.frame
  cases move with
  | interrupt | starve | wait | confirm | leave | settleCrashed | join =>
    constructor <;> simp_all [System.enter, System.hangUp, System.fail]
  | _ => simp_all

theorem run_stalled {events : List Event} {s : System σ τ}
    (run : x.Run (x.start origin into cancelled) events s) (none : x.config.hasRoom = false) :
    Stalled events s := by
  refine run.preserves Stalled ?_ (fun _ => stalled_produce) (fun _ => stalled_consume) ?_
  · constructor <;> simp [start, System.start, System.enter, none]
  · rintro events t - ⟨producer, queue, empty, unflushed, unpulled, uncalled⟩
    exact ⟨producer, queue, empty, unflushed, unpulled, uncalled⟩

theorem barren_of_roomless {events : List Event} {s : System σ τ}
    {result : Except PipelineError Progress}
    (run : x.Run (x.start origin into cancelled) events s) (none : x.config.hasRoom = false)
    (returned : s.result? = some result) (uncancelled : s.cancelled = false) :
    Barren events s.lifecycle result := by
  have stalled := run_stalled run none
  have uncalled (call : Event) (counts : call.call? = some call) : call ∉ events := by
    intro member
    have listed : call ∈ sinkCalls events := List.mem_filterMap.mpr ⟨call, member, counts⟩
    simp [stalled.uncalled] at listed
  rcases result_cases run returned uncancelled with
    ⟨counts, rfl, -⟩ | ⟨error, all, rfl, -⟩ | ⟨rfl, -⟩ |
      ⟨written, bytes, reason, rfl, ⟨record, refused⟩ | refused⟩
  · exact absurd (result_forced run returned).2 (uncalled _ rfl)
  · have refused : s.producer = .finished (.refused error) :=
      (failed_of_error run returned (by simp)).2.1
    have ended := stalled.producer
    simp [refused] at ended
  · exact ⟨rfl, (failed_of_error run returned (by simp)).1, stalled.unpulled, stalled.uncalled⟩
  · exact absurd refused (uncalled _ rfl)
  · exact absurd refused (uncalled _ rfl)

end Setup

theorem Pipeline.Reports.barren {σ τ : Type} {x : Pipeline} {source : Source σ} {origin : σ}
    {sink : Sink τ} {into : τ} {events : List Event} {report : Report τ}
    (reports : x.Reports source origin sink into events report) (idle : x.lifecycle = .idle)
    (none : x.config.hasRoom = false) (uncancelled : report.pipeline.cancelled = false) :
    Barren events report.pipeline.lifecycle report.result := by
  cases reports with
  | refused started => exact absurd idle started
  | returned _ _ run returned => exact Setup.barren_of_roomless run none returned uncancelled

end LoadSeries
