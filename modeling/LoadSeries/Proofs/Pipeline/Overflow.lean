import LoadSeries.Proofs.Pipeline.Abort
import LoadSeries.Proofs.Sink.Limit

/-!
Runs into a storage with a limit. A record that the sink is offered, and may refuse, is the next one
of the source. So a source of records alone is written up to the first record that does not fit:
the run says how many records and bytes came before it, and the storage holds these, and that
record's own bytes if only its ending was refused.
-/
namespace LoadSeries
open Text

namespace Source

variable {σ : Type} {source : Source σ}

/-- All that the source comes to are records, and perhaps its end. -/
def Unbroken (source : Source σ) (state : σ) : Prop :=
  ∀ records rest, source.Gives state records rest →
    source rest = .finished ∨ ∃ bytes next, source rest = .record bytes next

theorem Unbroken.not_refuses {state : σ} {records : List Bytes} {error : EncodingError}
    (unbroken : source.Unbroken state) : ¬ source.Refuses state records error := by
  rintro ⟨rest, later, gives, refused⟩
  rcases unbroken records rest gives with finished | ⟨bytes, next, found⟩
  · simp [refused] at finished
  · simp [refused] at found

theorem Unbroken.not_crashes {state : σ} {records : List Bytes}
    (unbroken : source.Unbroken state) : ¬ source.Crashes state records := by
  rintro ⟨rest, gives, crashed⟩
  rcases unbroken records rest gives with finished | ⟨bytes, next, found⟩
  · simp [crashed] at finished
  · simp [crashed] at found

theorem Exhausts.unbroken {state : σ} {records : List Bytes}
    (exhausts : source.Exhausts state records) : source.Unbroken state := by
  intro some rest gives
  cases found : source rest with
  | finished => exact .inl rfl
  | record bytes next => exact .inr ⟨bytes, next, rfl⟩
  | refused error later => exact absurd ⟨rest, later, gives, found⟩ exhausts.not_refuses
  | crashed => exact absurd ⟨rest, gives, found⟩ exhausts.not_crashes

end Source

namespace Event

/-- A record that the sink is asked to write. -/
def offered? : Event → Option Bytes
  | written record _ => some record
  | _ => none

attribute [simp] offered?

end Event

abbrev offeredRecords : List Event → List Bytes := Event.select Event.offered?

theorem offeredRecords_sinkCalls (events : List Event) :
    offeredRecords (sinkCalls events) = offeredRecords events := by
  refine Event.select_sinkCalls (fun event silent => ?_) events
  cases event <;> simp_all

theorem offeredRecords_accepting (writes : List (Bytes × Nat)) :
    offeredRecords (writes.map Event.accepting) = writes.map (·.1) := by
  induction writes with
  | nil => rfl
  | cons write rest ih =>
    rw [List.map_cons, List.map_cons, ← ih]
    simp only [Event.select_cons]
    rfl

namespace Setup

variable {σ τ : Type} {x : Setup σ τ} {origin : σ} {into : τ} {cancelled : Bool}

/-- The record that the sink is offered is the next one of the batches taken. -/
private theorem offered_next {events : List Event} {s : System σ τ} {record : Bytes}
    {rest : List Bytes} (run : x.Run (x.start origin into cancelled) events s)
    (writing : s.consumer = .writing (record :: rest)) :
    offeredRecords events ++ [record] <+: (takenBatches events).flatten := by
  obtain ⟨last, calls, closed⟩ := run_called run
  obtain ⟨-, -, place⟩ := run_written run
  simp only [Closed, writing] at closed
  simp only [writing] at place
  have offered : offeredRecords events = acceptedRecords events := by
    rw [← offeredRecords_sinkCalls, calls, closed, List.append_nil, offeredRecords_accepting]
  rw [offered, ← place.1]
  exact ⟨rest, by simp⟩

theorem offered_isPrefix {events : List Event} {s : System σ τ}
    (run : x.Run (x.start origin into cancelled) events s) :
    offeredRecords events <+: (takenBatches events).flatten := by
  refine run.preserves
    (fun events _ => offeredRecords events <+: (takenBatches events).flatten) List.prefix_rfl ?_ ?_
    (fun _ front => front)
  · intro events t new u _ front move
    have same := move.frame
    cases move <;> simpa using front
  · intro events t new u before front move
    cases move with
    | @take batch popped going =>
      have more : (takenBatches events).flatten <+:
          (takenBatches (events ++ [.taken batch])).flatten := by simp
      simpa using front.trans more
    | write writing accepted => simpa using offered_next before writing
    | stumble writing refused => simpa using offered_next before writing
    | _ => simpa using front

/-- The source brings all the records that the sink is offered. -/
theorem offered_gives {events : List Event} {s : System σ τ}
    (run : x.Run (x.start origin into cancelled) events s) :
    ∃ rest, x.source.Gives origin (offeredRecords events) rest := by
  obtain ⟨rest, gives⟩ := (taken_wholeBatches run).gives
  exact gives.of_isPrefix (offered_isPrefix run)

end Setup

namespace Writer

variable {σ : Type} {w : Writer} {config : PipelineConfig} {source : Source σ} {origin : σ}
  {cancelled : Bool}

/-- These records fit, each with its ending, and the one behind them does not. -/
structure StopsAt (w : Writer) (front : List Bytes) (record : Bytes) : Prop where
  fits : w.Holds (w.terminated front).length
  exceeds : ¬ w.Holds (w.terminated (front ++ [record])).length

theorem StopsAt.not_isPrefix {front all : List Bytes} {record : Bytes}
    (stops : w.StopsAt front record) (fits : w.Holds (w.terminated all).length) :
    ¬ front ++ [record] <+: all :=
  fun within => stops.exceeds (fits.of_isPrefix within)

/-- A source comes to at most one record that does not fit. -/
theorem StopsAt.unique {front all : List Bytes} {record other : Bytes} {rest last : σ}
    (stops : w.StopsAt front record) (gives : source.Gives origin (front ++ [record]) rest)
    (stops' : w.StopsAt all other) (gives' : source.Gives origin (all ++ [other]) last) :
    front = all ∧ record = other := by
  have same : front ++ [record] = all ++ [other] := by
    rcases gives.isPrefix_or gives' with within | within
    · rcases List.prefix_concat_iff.mp within with same | shorter
      · exact same
      · exact absurd shorter (stops.not_isPrefix stops'.fits)
    · rcases List.prefix_concat_iff.mp within with same | shorter
      · exact same.symm
      · exact absurd shorter (stops'.not_isPrefix stops.fits)
  obtain ⟨fronts, records⟩ := List.append_inj' same rfl
  exact ⟨fronts, (List.cons.inj records).1⟩

/-- A run that writes what a source brings to an empty storage. -/
abbrev filling (w : Writer) (config : PipelineConfig) (source : Source σ) : Setup σ Storage :=
  ⟨config, source, w.sink⟩

/-- What the storage holds as the sink is called for the last time. -/
private theorem stored_before {events : List Event} {s : System σ Storage} {call : Event}
    (run : (w.filling config source).Run ((w.filling config source).start origin .empty cancelled)
      events s)
    (calls : sinkCalls events = (acceptedWrites events).map Event.accepting ++ [call]) :
    ∃ before, w.Kept before ∧ before.bytes = w.terminated (acceptedRecords events) ∧
      acceptedBytes events = (w.terminated (acceptedRecords events)).length ∧
      ((∃ record result, call = .written record result ∧
          w.sink.write before record = (result, s.sink)) ∨
        ∃ result, call = .flushed result ∧ w.sink.flush before = (result, s.sink)) := by
  have answers := Setup.run_answers run
  rw [calls] at answers
  obtain ⟨before, earlier, last⟩ := answers.of_snoc
  obtain ⟨kept, stored, sum⟩ := stored_of_accepted kept_empty earlier
  exact ⟨before, kept, stored, sum, last⟩

/-- A storage that holds these records refuses only one that does not fit. -/
theorem stopsAt_of_refused {before next : Storage} {front : List Bytes} {record : Bytes}
    {reason : String} (kept : w.Kept before) (stored : before.bytes = w.terminated front)
    (refused : w.sink.write before record = (.error reason, next)) :
    w.StopsAt front record ∧ reason = Storage.full ∧
      next.bytes = w.terminated front ++
        if w.Holds (w.terminated front ++ record).length then record else [] := by
  have size : before.size = (w.terminated front).length := by rw [kept.size_eq, stored]
  have total : (w.terminated (front ++ [record])).length =
      before.size + (record ++ w.ending).length := by
    rw [terminated_append, List.length_append, terminated_singleton, size]
  by_cases holds : w.Holds (before.size + (record ++ w.ending).length)
  · obtain ⟨rest, accepted, -⟩ := write_of_holds kept holds
    rw [accepted] at refused
    cases refused
  · obtain ⟨rest, refused', bytes⟩ := write_of_not_holds kept holds
    rw [refused'] at refused
    cases refused
    exact ⟨⟨stored ▸ kept.holds_length, by rwa [total]⟩, rfl,
      by rw [bytes, stored, size, List.length_append]⟩

/-- A run of which the sink refused a write: the record was the next one, and did not fit. -/
theorem stopsAt_of_sinkWrite {events : List Event} {s : System σ Storage}
    {records bytes : UInt64} {reason : String}
    (run : (w.filling config source).Run ((w.filling config source).start origin .empty cancelled)
      events s)
    (returned : s.result? = some (.error (.sinkWrite records bytes reason))) :
    ∃ front record rest, source.Gives origin (front ++ [record]) rest ∧ w.StopsAt front record ∧
      records = .ofNat front.length ∧ bytes = .ofNat (w.terminated front).length ∧
      reason = Storage.full ∧ s.lifecycle = .failed ∧ (∀ flush, .flushed flush ∉ events) ∧
      offeredRecords events = front ++ [record] ∧
      s.sink.bytes = w.terminated front ++
        if w.Holds (w.terminated front ++ record).length then record else [] := by
  have stage := Setup.consumer_of_result? returned
  have settled := Setup.run_settled run
  obtain ⟨last, calls, closed⟩ := Setup.run_called run
  simp only [Setup.Settled, stage] at settled
  simp only [Setup.Closed, stage] at closed
  obtain ⟨counted, summed, ⟨record, rfl⟩ | ⟨rfl, -⟩⟩ := closed
  · obtain ⟨before, kept, stored, sum, ⟨_, _, same, answer⟩ | ⟨_, same, -⟩⟩ :=
      stored_before run calls
    · cases same
      obtain ⟨stops, full, bytes_eq⟩ := stopsAt_of_refused kept stored answer
      have offered : offeredRecords events = acceptedRecords events ++ [record] := by
        rw [← offeredRecords_sinkCalls, calls]
        simp [offeredRecords_accepting]
      obtain ⟨rest, gives⟩ := Setup.offered_gives run
      rw [offered] at gives
      refine ⟨acceptedRecords events, record, rest, gives, stops, ?_,
        summed.trans (congrArg _ sum), full, settled.1, ?_, offered, bytes_eq⟩
      · rw [counted, List.length_map]
      · intro flush member
        have call := flushed_mem_sinkCalls member
        simp [calls, Event.accepting] at call
    · cases same
  · -- The storage refuses no flush.
    obtain ⟨before, -, -, -, ⟨_, _, same, -⟩ | ⟨result, same, answer⟩⟩ := stored_before run calls
    · cases same
    · cases same
      cases answer

/-- A run that succeeded has stored each record of its source, and has counted the bytes. -/
theorem stored_of_ok {events : List Event} {s : System σ Storage} {counts : Progress}
    (run : (w.filling config source).Run ((w.filling config source).start origin .empty cancelled)
      events s)
    (returned : s.result? = some (.ok counts)) :
    s.sink.bytes = w.terminated (acceptedRecords events) ∧
      w.Holds (w.terminated (acceptedRecords events)).length ∧
      counts.bytes = .ofNat s.sink.bytes.length := by
  have stage := Setup.consumer_of_result? returned
  have settled := Setup.run_settled run
  obtain ⟨-, summed, -⟩ := Setup.run_written run
  obtain ⟨last, calls, closed⟩ := Setup.run_called run
  simp only [Setup.Settled, stage] at settled
  simp only [Setup.Closed, stage] at closed
  rw [closed] at calls
  obtain ⟨before, kept, stored, sum, ⟨_, _, same, -⟩ | ⟨result, -, answer⟩⟩ :=
    stored_before run calls
  · cases same
  · have unchanged : before = s.sink := (Prod.mk.inj answer).2
    rw [← unchanged]
    exact ⟨stored, stored ▸ kept.holds_length, by rw [settled.2.1, stored, summed, sum]⟩

/-- If the source comes to records alone and the run is not cancelled, then each run that returns
has stopped at the first record that does not fit, and has told how much came before it; and if all
records fit, it has stored them all. Without room for a batch it has come to nothing. -/
theorem stops_at_limit {events : List Event} {s : System σ Storage}
    {result : Except PipelineError Progress} (unbroken : source.Unbroken origin)
    (run : (w.filling config source).Run ((w.filling config source).start origin .empty cancelled)
      events s)
    (returned : s.result? = some result) (uncancelled : s.cancelled = false) :
    (config.hasRoom = true →
      (∀ front record rest, source.Gives origin (front ++ [record]) rest →
        w.StopsAt front record →
          result = .error (.sinkWrite (.ofNat front.length) (.ofNat (w.terminated front).length)
              Storage.full) ∧
            s.lifecycle = .failed ∧ (∀ flush, .flushed flush ∉ events) ∧
            offeredRecords events = front ++ [record] ∧
            s.sink.bytes = w.terminated front ++
              if w.Holds (w.terminated front ++ record).length then record else []) ∧
        ((∀ records rest, source.Gives origin records rest →
            w.Holds (w.terminated records).length) →
          ∃ counts records, result = .ok counts ∧ source.Exhausts origin records ∧
            s.sink.bytes = w.terminated records ∧
            counts.bytes = .ofNat s.sink.bytes.length)) ∧
      (config.hasRoom = false → Barren events s.lifecycle result ∧ s.sink.bytes = []) := by
  refine ⟨fun room => ?_, fun none => ?_⟩
  · rcases Setup.result_cases run returned uncancelled with
      ⟨counts, rfl, exhausts⟩ | ⟨error, records, rfl, refuses⟩ | ⟨rfl, cause⟩ |
        ⟨records, bytes, reason, rfl, -⟩
    · obtain ⟨stored, fits, counted⟩ := stored_of_ok run returned
      refine ⟨?_, fun _ => ⟨counts, _, rfl, exhausts, stored, counted⟩⟩
      intro front record rest gives stops
      exact absurd (exhausts.isPrefix gives) (stops.not_isPrefix fits)
    · exact absurd refuses unbroken.not_refuses
    · obtain ⟨records, crashes⟩ := cause.resolve_right (by simp [room])
      exact absurd crashes unbroken.not_crashes
    · obtain ⟨all, other, last, whole, stops', rfl, rfl, rfl, found⟩ :=
        stopsAt_of_sinkWrite run returned
      refine ⟨?_, fun fits => absurd (fits _ _ whole) stops'.exceeds⟩
      intro front record rest gives stops
      obtain ⟨rfl, rfl⟩ := stops.unique gives stops' whole
      exact ⟨rfl, found⟩
  · have barren := Setup.barren_of_roomless run none returned uncancelled
    have answers := Setup.run_answers run
    rw [barren.uncalled] at answers
    rw [answers.of_nil]
    exact ⟨barren, rfl⟩

/-- A storage that has room for so many bytes, filled in pairs of records. -/
def limitedPairs (limit : Nat) : Setup (List Item) Storage :=
  filling ⟨some [10], some limit⟩ ⟨2, 1, 10, Nat.two_pos, Nat.one_pos⟩ .listed

theorem stops_at_limit_pairs :
    (∃ events s, (limitedPairs 3).Run
        ((limitedPairs 3).start (Setup.threeRecords.map .record) .empty false) events s ∧
      s.result? = some (.error (.sinkWrite 1 2 Storage.full)) ∧
      offeredRecords events = [[48], [49]] ∧ s.sink.bytes = [48, 10, 49]) ∧
    ∃ events s counts, (limitedPairs 6).Run
        ((limitedPairs 6).start (Setup.threeRecords.map .record) .empty false) events s ∧
      s.result? = some (.ok counts) ∧ counts.bytes = .ofNat s.sink.bytes.length := by
  have exhausts := Source.listed_exhausts Setup.threeRecords
  constructor
  · obtain ⟨events, run⟩ := Setup.run_run (limitedPairs 3) 60
      ((limitedPairs 3).start (Setup.threeRecords.map .record) .empty false)
    have gives : Source.listed.Gives (Setup.threeRecords.map .record) ([[48]] ++ [[49]])
        [.record [50]] := Source.listed_gives [[48], [49]] [.record [50]]
    have stops : (⟨some [10], some 3⟩ : Writer).StopsAt [[48]] [49] := ⟨by decide, by decide⟩
    obtain ⟨-, -, -, offered, stored⟩ :=
      ((stops_at_limit exhausts.unbroken run rfl rfl).1 rfl).1 _ _ _ gives stops
    exact ⟨events, _, run, rfl, offered, stored⟩
  · obtain ⟨events, run⟩ := Setup.run_run (limitedPairs 6) 60
      ((limitedPairs 6).start (Setup.threeRecords.map .record) .empty false)
    have fits (records : List Bytes) (rest : List Item)
        (gives : Source.listed.Gives (Setup.threeRecords.map .record) records rest) :
        (⟨some [10], some 6⟩ : Writer).Holds
          ((⟨some [10], some 6⟩ : Writer).terminated records).length := by
      have whole : (⟨some [10], some 6⟩ : Writer).Holds
          ((⟨some [10], some 6⟩ : Writer).terminated Setup.threeRecords).length := by decide
      exact whole.of_isPrefix (exhausts.isPrefix gives)
    obtain ⟨counts, -, same, -, -, counted⟩ :=
      ((stops_at_limit exhausts.unbroken run rfl rfl).1 rfl).2 fits
    exact ⟨events, _, counts, run, congrArg some same, counted⟩

/-- Without room for a batch the run crashes and stores nothing, although one record fits and the
next one does not. -/
theorem crashed_below_limit : ∃ events s,
    (filling ⟨some [10], some 3⟩ Setup.roomless.config .listed).Run
        (.start Setup.roomless.config (Setup.threeRecords.map .record) .empty false) events s ∧
      s.result? = some (.error .producerCrashed) ∧ s.cancelled = false ∧ s.sink.bytes = [] ∧
      Source.listed.Unbroken (Setup.threeRecords.map .record) ∧
      Source.listed.Gives (Setup.threeRecords.map .record) ([[48]] ++ [[49]]) [.record [50]] ∧
      (⟨some [10], some 3⟩ : Writer).StopsAt [[48]] [49] := by
  obtain ⟨events, run⟩ := Setup.run_run
    (filling ⟨some [10], some 3⟩ Setup.roomless.config .listed) 60
    (.start Setup.roomless.config (Setup.threeRecords.map .record) .empty false)
  exact ⟨events, _, run, rfl, rfl, rfl, (Source.listed_exhausts Setup.threeRecords).unbroken,
    Source.listed_gives [[48], [49]] [.record [50]], by decide, by decide⟩

end Writer

end LoadSeries
