import LoadSeries.Proofs.Pipeline.Room
import LoadSeries.Proofs.Sink.Storage

/-!
Success of a run. A run that returns a success has written the whole source in order, one flush
behind it, and has counted what it wrote; and a run that nothing stands in the way of, neither the
source nor the sink nor the sizes nor a cancellation, returns a success. If the sizes alone stand in
its way, it comes to nothing.
-/
namespace LoadSeries
open Text

namespace Setup

variable {σ τ : Type} {x : Setup σ τ} {origin : σ} {into : τ} {cancelled : Bool}

/-- As many batches are taken as it takes to hold the records of a source that is finished. -/
theorem batches_of_completed {events : List Event} {s : System σ τ}
    (run : x.Run (x.start origin into cancelled) events s)
    (completed : s.producer = .finished .completed)
    (all : takenBatches events = sentBatches events)
    (whole : acceptedRecords events = (sentBatches events).flatten) :
    (takenBatches events).length =
      ((acceptedWrites events).length + x.config.batchSize - 1) / x.config.batchSize := by
  have supplied := run_supplied run
  simp only [Supplied, completed, Ended] at supplied
  obtain ⟨-, -, batched⟩ := supplied
  have records : (acceptedWrites events).length = (sentBatches events).flatten.length := by
    rw [← whole, List.length_map]
  rw [all, records]
  exact batched.length_eq x.config.batchSize_pos

theorem not_refused_of_accepts {events : List Event} {s : System σ τ} {reason : String}
    (run : x.Run (x.start origin into cancelled) events s) (accepts : x.sink.Accepts into) :
    ¬ ((∃ record, .written record (.error reason) ∈ events) ∨
      .flushed (.error reason) ∈ events) := by
  have accepted (call : Event) (counts : call.call? = some call) (member : call ∈ events) :=
    accepts _ _ (run_answers run) call (List.mem_filterMap.mpr ⟨call, member, counts⟩)
  rintro (⟨record, member⟩ | member)
  · simpa [Event.accepting] using accepted _ rfl member
  · simpa [Event.accepting] using accepted _ rfl member

theorem result_of_exhausts {records : List Bytes} {events : List Event} {s : System σ τ}
    {result : Except PipelineError Progress} (room : x.config.hasRoom = true)
    (exhausts : x.source.Exhausts origin records) (accepts : x.sink.Accepts into)
    (run : x.Run (x.start origin into cancelled) events s) (returned : s.result? = some result)
    (uncancelled : s.cancelled = false) : ∃ counts, result = .ok counts := by
  rcases result_cases run returned uncancelled with
    ⟨counts, rfl, -⟩ | ⟨error, all, rfl, refuses⟩ | ⟨rfl, cause⟩ |
      ⟨written, bytes, reason, rfl, refused⟩
  · exact ⟨counts, rfl⟩
  · exact absurd refuses exhausts.not_refuses
  · obtain ⟨all, crashes⟩ := cause.resolve_right (by simp [room])
    exact absurd crashes exhausts.not_crashes
  · exact absurd refused (not_refused_of_accepts run accepts)

end Setup

namespace Pipeline

variable {σ τ : Type} {x : Pipeline} {source : Source σ} {origin : σ} {sink : Sink τ} {into : τ}

theorem Reports.success {events : List Event} {report : Report τ} {counts : Progress}
    (reports : x.Reports source origin sink into events report)
    (succeeded : report.result = .ok counts) :
    source.Exhausts origin (acceptedRecords events) ∧
      sinkCalls events = (acceptedWrites events).map Event.accepting ++ [.flushed (.ok ())] ∧
      sink.Answers into (sinkCalls events) report.sink ∧
      report.pipeline.lifecycle = .done ∧
      counts.records = .ofNat (acceptedWrites events).length ∧
      counts.batches = .ofNat
        (((acceptedWrites events).length + x.config.batchSize - 1) / x.config.batchSize) ∧
      counts.bytes = .ofNat (acceptedBytes events) := by
  cases reports with
  | refused started => simp at succeeded
  | @returned _ final result idle queue run returned =>
    obtain rfl : result = .ok counts := succeeded
    have stage := Setup.consumer_of_result? returned
    have settled := Setup.run_settled run
    obtain ⟨records, bytes, place⟩ := Setup.run_written run
    obtain ⟨last, calls, closed⟩ := Setup.run_called run
    simp only [Setup.Settled, stage] at settled
    simp only [stage] at place
    simp only [Setup.Closed, stage] at closed
    obtain ⟨done, rfl, completed, all⟩ := settled
    have whole : acceptedRecords events = (sentBatches events).flatten := by rw [place.1, all]
    exact ⟨Setup.exhausts_of_completed run completed whole, closed ▸ calls,
      Setup.run_answers run, done, records,
      place.2.trans (congrArg _ (Setup.batches_of_completed run completed all whole)), bytes⟩

theorem Reports.exists_counts {records : List Bytes} {events : List Event} {report : Report τ}
    (idle : x.lifecycle = .idle) (room : x.config.hasRoom = true)
    (exhausts : source.Exhausts origin records) (accepts : sink.Accepts into)
    (reports : x.Reports source origin sink into events report)
    (uncancelled : report.pipeline.cancelled = false) :
    ∃ counts, report.result = .ok counts := by
  cases reports with
  | refused started => exact absurd idle started
  | returned _ _ run returned =>
    exact Setup.result_of_exhausts (x := ⟨x.config, source, sink⟩) room exhausts accepts run
      returned uncancelled

/-- If all items of the source are records, the sink refuses nothing and the run is not cancelled,
then each run that returns has succeeded, if there is room for a batch, and has come to nothing
otherwise. What it counts it counts in words of 64 bits. -/
theorem delivers_all {records : List Bytes} {events : List Event} {report : Report τ}
    (idle : x.lifecycle = .idle) (exhausts : source.Exhausts origin records)
    (accepts : sink.Accepts into) (reports : x.Reports source origin sink into events report)
    (uncancelled : report.pipeline.cancelled = false) :
    (x.config.hasRoom = true → ∃ (writes : List (Bytes × Nat)) (depth : Nat),
      writes.map (·.1) = records ∧
        sinkCalls events = writes.map Event.accepting ++ [.flushed (.ok ())] ∧
        sink.Answers into (sinkCalls events) report.sink ∧
        report.pipeline.lifecycle = .done ∧
        report.result = .ok
          { records := .ofNat records.length
            batches := .ofNat ((records.length + x.config.batchSize - 1) / x.config.batchSize)
            bytes := .ofNat (writes.map (·.2)).sum
            maxDepth := depth }) ∧
      (x.config.hasRoom = false → Barren events report.pipeline.lifecycle report.result) := by
  refine ⟨fun room => ?_, fun none => reports.barren idle none uncancelled⟩
  obtain ⟨counts, succeeded⟩ := reports.exists_counts idle room exhausts accepts uncancelled
  obtain ⟨exhausts', calls, answers, done, written, batches, bytes⟩ := reports.success succeeded
  have all : acceptedRecords events = records := exhausts'.unique exhausts
  have number : records.length = (acceptedWrites events).length := by
    rw [← all, List.length_map]
  have sum : .ofNat ((acceptedWrites events).map (·.2)).sum = counts.bytes := bytes.symm
  refine ⟨acceptedWrites events, counts.maxDepth, all, calls, answers, done, ?_⟩
  rw [succeeded, number, ← batches, ← written, sum]

def paired : Pipeline := ofConfig ⟨2, 1, 10, Nat.two_pos, Nat.one_pos⟩

theorem delivers_all_paired : ∃ events report,
    paired.Reports .listed (Setup.threeRecords.map .record) (Writer.sink ⟨some [10], none⟩) .empty
        events report ∧
      (∃ (writes : List (Bytes × Nat)) (depth : Nat), writes.map (·.1) = Setup.threeRecords ∧
        sinkCalls events = writes.map Event.accepting ++ [.flushed (.ok ())] ∧
        report.result = .ok ⟨3, 2, .ofNat (writes.map (·.2)).sum, depth⟩) ∧
      report.sink.bytes = [48, 10, 49, 10, 50, 10] := by
  obtain ⟨report, ran, uncancelled, stored⟩ : ∃ report,
      paired.run 60 .listed (Setup.threeRecords.map .record) (Writer.sink ⟨some [10], none⟩) .empty
          = some report ∧
        report.pipeline.cancelled = false ∧
        report.sink.bytes = [48, 10, 49, 10, 50, 10] := ⟨_, rfl, rfl, rfl⟩
  obtain ⟨events, reports⟩ := run_reports ran
  obtain ⟨writes, depth, all, calls, -, -, result⟩ := (delivers_all rfl
    (Source.listed_exhausts Setup.threeRecords) Writer.accepts_of_unlimited reports
    uncancelled).1 rfl
  exact ⟨events, report, reports, ⟨writes, depth, all, calls, result⟩, stored⟩

/-- A sink that reports as much for every record as a word can hold. -/
def boundless : Sink Unit where
  write _ _ := (.ok 18446744073709551615, ())
  flush _ := (.ok (), ())

theorem acceptedBytes_boundless {rest : Unit} {calls : List Event}
    (answers : boundless.Answers () calls rest) :
    acceptedBytes calls = (acceptedRecords calls).length * 18446744073709551615 := by
  induction answers with
  | nil => rfl
  | written _ answer ih =>
    cases answer
    simp_all [Nat.add_mul]
  | flushed _ _ ih => simp_all

/-- Without room for a batch nothing is delivered, although nothing else stands in the way; and what
a sink reports may be more than a word can count. -/
theorem fails_without_room :
    (∃ events report, (ofConfig Setup.roomless.config).Reports .listed
        (Setup.threeRecords.map .record) (Writer.sink ⟨none, none⟩) .empty events report ∧
      Source.listed.Exhausts (Setup.threeRecords.map .record) Setup.threeRecords ∧
      (Writer.sink ⟨none, none⟩).Accepts .empty ∧
      report.pipeline.cancelled = false ∧ report.pipeline.lifecycle = .failed ∧
      report.result = .error .producerCrashed) ∧
    ∃ events report counts, paired.Reports .listed (Setup.threeRecords.map .record) boundless ()
        events report ∧
      report.result = .ok counts ∧ acceptedBytes events = 3 * 18446744073709551615 ∧
      counts.bytes.toNat = 18446744073709551613 := by
  constructor
  · obtain ⟨report, ran, uncancelled, failed, crashed⟩ : ∃ report,
        (ofConfig Setup.roomless.config).run 60 .listed (Setup.threeRecords.map .record)
            (Writer.sink ⟨none, none⟩) .empty = some report ∧
          report.pipeline.cancelled = false ∧ report.pipeline.lifecycle = .failed ∧
          report.result = .error .producerCrashed := ⟨_, rfl, rfl, rfl, rfl⟩
    obtain ⟨events, reports⟩ := run_reports ran
    exact ⟨events, report, reports, Source.listed_exhausts _, Writer.accepts_of_unlimited,
      uncancelled, failed, crashed⟩
  · obtain ⟨report, counts, ran, succeeded, wrapped⟩ : ∃ report counts,
        paired.run 60 .listed (Setup.threeRecords.map .record) boundless () = some report ∧
          report.result = .ok counts ∧ counts.bytes.toNat = 18446744073709551613 :=
      ⟨_, _, rfl, rfl, rfl⟩
    obtain ⟨events, reports⟩ := run_reports ran
    obtain ⟨exhausts, -, answers, -⟩ := reports.success succeeded
    have sum := acceptedBytes_boundless answers
    have all : acceptedRecords events = Setup.threeRecords :=
      exhausts.unique (Source.listed_exhausts Setup.threeRecords)
    simp only [acceptedBytes, acceptedRecords, Event.acceptedWrites_sinkCalls] at sum all
    rw [all] at sum
    exact ⟨events, report, counts, reports, succeeded, sum, wrapped⟩

end Pipeline

end LoadSeries
