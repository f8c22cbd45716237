import LoadSeries.Proofs.Pipeline.Course
import LoadSeries.Proofs.Pipeline.Safety

/-!
The routes that runs take through the lifecycle. A run succeeds out of draining; it fails out of
draining too, unless it is cancelled, the sink refuses a record or a batch is dropped for the
producer's flag. A pipeline that has run stays where the run has left it, whatever it is asked.
-/
namespace LoadSeries
open Text

namespace Setup

variable {σ τ : Type} {x : Setup σ τ} {origin : σ} {into : τ} {cancelled : Bool}

/-- On its way the run has dropped a batch from the queue, for the producer's flag. -/
def Dropped (x : Setup σ τ) (s : System σ τ) (events : List Event) (t : System σ τ) : Prop :=
  ∃ before u batch v after, x.Run s before u ∧ u.consumer = .popped batch ∧ u.aborted = true ∧
    x.consume? u = some v ∧ x.Run v after t ∧ events = before ++ after

theorem Dropped.run {s t u : System σ τ} {events after : List Event}
    (dropped : x.Dropped s events t) (run : x.Run t after u) : x.Dropped s (events ++ after) u := by
  obtain ⟨before, v, batch, w, between, first, popped, aborted, taken, second, rfl⟩ := dropped
  exact ⟨before, v, batch, w, between ++ after, first, popped, aborted, taken, second.trans run,
    List.append_assoc _ _ _⟩

/-- How a consumer that does not come out of draining has left the queue. -/
def Routed (x : Setup σ τ) (s : System σ τ) (events : List Event) (t : System σ τ) : Prop :=
  match t.consumer with
  | .leaving => t.IsAt .draining true ∨ x.Dropped s events t
  | .returned (.error (.encoding _)) => t.IsAt .failed true ∨ x.Dropped s events t
  | .returned (.error (.sinkWrite _ _ _)) =>
    t.IsAt .failed true ∨ ∃ record reason, .written record (.error reason) ∈ events
  | _ => True

private theorem Routed.run {s t u : System σ τ} {events after : List Event}
    (routed : x.Routed s events t) (run : x.Run t after u) (same : u.consumer = t.consumer)
    (kept : ∀ stage, t.IsAt stage true → u.IsAt stage true) : x.Routed s (events ++ after) u := by
  unfold Routed at routed ⊢
  rw [same]
  split at routed
  · exact routed.imp (kept _) fun dropped => dropped.run run
  · exact routed.imp (kept _) fun dropped => dropped.run run
  · exact routed.imp (kept _) fun ⟨record, reason, member⟩ =>
      ⟨record, reason, List.mem_append_left _ member⟩
  · trivial

private theorem routed_consume {t u : System σ τ} {events : List Event}
    (run : x.Run (x.start origin into cancelled) events t)
    (routed : x.Routed (x.start origin into cancelled) events t) (taken : x.consume? t = some u) :
    x.Routed (x.start origin into cancelled) (events ++ x.consumeEvents t) u := by
  have course := run_course run
  have step : x.Run t (x.consumeEvents t) u := by simpa using Run.nil.consume taken
  have move := consume_move taken
  unfold System.Course at course
  unfold Routed at routed
  generalize none : x.consumeEvents t = new at move step ⊢
  cases move with
  | drop popped aborted =>
    exact .inr ⟨events, t, _, _, [], run, popped, aborted, taken, .nil, rfl⟩
  | leave idle finished enough =>
    simp only [idle] at course
    exact .inl course.drain
  | settleRefused leaving refused =>
    simp only [leaving] at routed
    exact routed.imp (fun draining => draining.enter rfl) fun dropped => dropped.run step
  | flushRefused flushing refused =>
    simp only [flushing] at course
    exact .inl (course.enter rfl)
  | stumble writing refused =>
    exact .inr ⟨_, _, List.mem_append_right _ List.mem_cons_self⟩
  | _ => simp [Routed, System.fail, System.enter, Setup.closeBatch]

theorem run_routed {events : List Event} {s : System σ τ}
    (run : x.Run (x.start origin into cancelled) events s) :
    x.Routed (x.start origin into cancelled) events s := by
  induction run with
  | nil => trivial
  | @produce events t u run taken ih =>
    have same := (produce_move taken).frame
    have step : x.Run t (x.produceEvents t) u := by simpa using Run.nil.produce taken
    exact ih.run step same.consumer fun stage here =>
      ⟨same.lifecycle.trans here.1, same.transitions.trans here.2⟩
  | consume run taken ih => exact routed_consume run ih taken
  | cancel run ih => simpa using ih.run (.cancel .nil) rfl fun _ here => here

/-- A run whose flush is refused fails out of draining. -/
theorem drained_of_unflushed {events : List Event} {s : System σ τ} {reason : String}
    (run : x.Run (x.start origin into cancelled) events s)
    (refused : .flushed (.error reason) ∈ events) : s.IsAt .failed true := by
  obtain ⟨last, calls, closed⟩ := run_called run
  have call := flushed_mem_sinkCalls refused
  -- All calls but the last one are accepted writes.
  have final : .flushed (.error reason) ∈ last := by
    rw [calls] at call
    rcases List.mem_append.mp call with earlier | final
    · obtain ⟨write, -, same⟩ := List.mem_map.mp earlier
      cases same
    · exact final
  unfold Closed at closed
  split at closed
  · simp [closed] at final
  · rename_i stage
    obtain ⟨-, -, ⟨record, only⟩ | ⟨only, -⟩⟩ := closed
    · simp [only] at final
    · have routed := run_routed run
      simp only [Routed, stage] at routed
      refine routed.resolve_right ?_
      rintro ⟨record, other, written⟩
      have other : .written record (.error other) ∈ sinkCalls events :=
        List.mem_filterMap.mpr ⟨_, written, rfl⟩
      rw [calls, only] at other
      simp [Event.accepting] at other
  · simp [closed] at final

/-- What a run that fails without draining comes of. -/
theorem cause_of_undrained {events : List Event} {s : System σ τ}
    {result : Except PipelineError Progress}
    (run : x.Run (x.start origin into cancelled) events s) (returned : s.result? = some result)
    (direct : s.IsAt .failed false) :
    (result = .error .interrupted ∧ s.cancelled = true) ∨
      (∃ records bytes reason record, result = .error (.sinkWrite records bytes reason) ∧
        .written record (.error reason) ∈ events) ∨
      ∃ error, result = .error (.encoding error) ∧
        x.Dropped (x.start origin into cancelled) events s := by
  have undrained : ¬ s.IsAt .failed true := by
    intro drained
    have same := direct.2.symm.trans drained.2
    exact absurd same (by decide)
  have forced := result_forced run returned
  have course := run_course run
  have routed := run_routed run
  have stage := consumer_of_result? returned
  simp only [System.Course, stage] at course
  cases result with
  | ok counts => exact absurd (direct.1.symm.trans course.1) (by decide)
  | error cause =>
    cases cause with
    | interrupted => exact .inl ⟨rfl, forced⟩
    | sinkWrite records bytes reason =>
      obtain ⟨-, -, ⟨record, written⟩ | flushed⟩ := forced
      · exact .inr (.inl ⟨records, bytes, reason, record, rfl, written⟩)
      · exact absurd (drained_of_unflushed run flushed) undrained
    | encoding error =>
      simp only [Routed, stage] at routed
      exact .inr (.inr ⟨error, rfl, routed.resolve_left undrained⟩)
    | producerCrashed =>
      obtain ⟨drained, failed, crashed⟩ := course
      rw [crashed rfl] at failed
      exact absurd failed undrained
    | config cause => exact forced.elim
    | alreadyStarted state => exact forced.elim

end Setup

namespace Pipeline

variable {σ τ : Type} {x : Pipeline} {source : Source σ} {origin : σ} {sink : Sink τ} {into : τ}

/-- The same pipeline later on, behind more runs and cancellations. -/
inductive Later (x : Pipeline) : Pipeline → Prop
  | now : Later x x
  | cancelled {y : Pipeline} (later : Later x y) : Later x y.cancel
  | ran {y : Pipeline} {σ τ : Type} {source : Source σ} {origin : σ} {sink : Sink τ} {into : τ}
      {events : List Event} {report : Report τ} (later : Later x y)
      (reports : y.Reports source origin sink into events report) : Later x report.pipeline

theorem Reports.refused_eq {events : List Event} {report : Report τ}
    (started : x.lifecycle ≠ .idle) (reports : x.Reports source origin sink into events report) :
    events = [] ∧ report = ⟨.error (.alreadyStarted x.lifecycle), [], x, into⟩ := by
  cases reports with
  | refused => exact ⟨rfl, rfl⟩
  | returned idle => exact absurd idle started

theorem Later.lifecycle_eq {y : Pipeline} (later : x.Later y) (started : x.lifecycle ≠ .idle) :
    y.lifecycle = x.lifecycle := by
  induction later with
  | now => rfl
  | cancelled _ ih => exact ih
  | ran _ reports ih =>
    obtain ⟨-, rfl⟩ := reports.refused_eq (ih ▸ started)
    exact ih

section Arrival

variable {events : List Event} {report : Report τ} (idle : x.lifecycle = .idle)
  (reports : x.Reports source origin sink into events report)
include idle reports

/-- Where a run leaves its pipeline, and how it got there. -/
theorem Reports.arrival :
    (∃ counts, report.result = .ok counts) ∧ report.pipeline.lifecycle = .done ∧
        report.transitions = Lifecycle.done.route true ∨
      (∃ error, report.result = .error error) ∧ report.pipeline.lifecycle = .failed ∧
        ∃ drained, report.transitions = Lifecycle.failed.route drained := by
  cases reports with
  | refused started => exact absurd idle started
  | @returned _ final result _ _ run returned =>
    have course := Setup.run_course run
    simp only [System.Course, Setup.consumer_of_result? returned] at course
    cases result with
    | ok counts => exact .inl ⟨⟨counts, rfl⟩, course⟩
    | error error =>
      obtain ⟨drained, ⟨failed, transitions⟩, -⟩ := course
      exact .inr ⟨⟨error, rfl⟩, failed, drained, transitions⟩

theorem Reports.isTerminal : report.pipeline.lifecycle.isTerminal = true := by
  rcases reports.arrival idle with ⟨-, done, -⟩ | ⟨-, failed, -⟩
  · rw [done]
    rfl
  · rw [failed]
    rfl

theorem Reports.transitions_cases :
    report.transitions = [(.idle, .running), (.running, .failed)] ∨
      report.transitions = [(.idle, .running), (.running, .draining), (.draining, .failed)] ∨
      report.transitions = [(.idle, .running), (.running, .draining), (.draining, .done)] := by
  rcases reports.arrival idle with ⟨-, -, done⟩ | ⟨-, -, drained, failed⟩
  · exact .inr (.inr done)
  · cases drained with
    | false => exact .inl failed
    | true => exact .inr (.inl failed)

theorem Reports.done_iff_ok :
    (∃ before, (before, .done) ∈ report.transitions) ↔ ∃ counts, report.result = .ok counts := by
  rcases reports.arrival idle with
    ⟨⟨counts, succeeded⟩, -, done⟩ | ⟨⟨error, refused⟩, -, drained, failed⟩
  · simp [succeeded, done, Lifecycle.route]
  · cases drained <;> simp [refused, failed, Lifecycle.route]

theorem Reports.draining_of_done {before : Lifecycle}
    (member : (before, .done) ∈ report.transitions) : before = .draining := by
  rcases reports.arrival idle with ⟨-, -, done⟩ | ⟨-, -, drained, failed⟩
  · simpa [done, Lifecycle.route] using member
  · cases drained <;> simp [failed, Lifecycle.route] at member

theorem Reports.cause_of_undrained
    (direct : report.transitions = [(.idle, .running), (.running, .failed)]) :
    (report.result = .error .interrupted ∧ report.pipeline.cancelled = true) ∨
      (∃ records bytes reason record, report.result = .error (.sinkWrite records bytes reason) ∧
        .written record (.error reason) ∈ events) ∨
      ∃ error final, report.result = .error (.encoding error) ∧
        final.result? = some report.result ∧
        Setup.Dropped ⟨x.config, source, sink⟩ (.start x.config origin into x.cancelled) events
          final := by
  have arrival := reports.arrival idle
  cases reports with
  | refused started => exact absurd idle started
  | @returned _ final result _ _ run returned =>
    rcases arrival with ⟨-, -, done⟩ | ⟨-, failed, -⟩
    · exact absurd (direct.symm.trans done) (by decide)
    · rcases Setup.cause_of_undrained run returned ⟨failed, direct⟩ with
        interrupted | refused | ⟨error, encoding, dropped⟩
      · exact .inl interrupted
      · exact .inr (.inl refused)
      · exact .inr (.inr ⟨error, final, encoding, returned, dropped⟩)

theorem Reports.drained_of_unflushed {reason : String}
    (refused : .flushed (.error reason) ∈ events) :
    report.transitions = [(.idle, .running), (.running, .draining), (.draining, .failed)] := by
  cases reports with
  | refused started => exact absurd idle started
  | returned _ _ run _ => exact (Setup.drained_of_unflushed run refused).2

theorem Reports.started {later : Pipeline} (onward : report.pipeline.Later later) :
    later.lifecycle = report.pipeline.lifecycle ∧ later.lifecycle ≠ .idle := by
  have terminal := reports.isTerminal idle
  have started : report.pipeline.lifecycle ≠ .idle := by
    intro fresh
    rw [fresh] at terminal
    cases terminal
  have same := onward.lifecycle_eq started
  exact ⟨same, same ▸ started⟩

end Arrival

/-- A run of a fresh pipeline takes one of three routes. It is done exactly if it succeeds, and then
out of draining; without draining it fails only for a cancellation, a record that the sink refuses
or a batch that is dropped for the producer's flag; if the flush is refused, it has drained. Any
later call is refused with the name of the state that the run has led to, and it changes nothing. -/
theorem runs_once {events : List Event} {report : Report τ} (idle : x.lifecycle = .idle)
    (reports : x.Reports source origin sink into events report) :
    (report.transitions = [(.idle, .running), (.running, .failed)] ∨
      report.transitions = [(.idle, .running), (.running, .draining), (.draining, .failed)] ∨
      report.transitions = [(.idle, .running), (.running, .draining), (.draining, .done)]) ∧
    ((∃ before, (before, .done) ∈ report.transitions) ↔ ∃ counts, report.result = .ok counts) ∧
    (∀ before, (before, .done) ∈ report.transitions → before = .draining) ∧
    (report.transitions = [(.idle, .running), (.running, .failed)] →
      (report.result = .error .interrupted ∧ report.pipeline.cancelled = true) ∨
      (∃ records bytes reason record, report.result = .error (.sinkWrite records bytes reason) ∧
        .written record (.error reason) ∈ events) ∨
      ∃ error final, report.result = .error (.encoding error) ∧
        final.result? = some report.result ∧
        Setup.Dropped ⟨x.config, source, sink⟩ (.start x.config origin into x.cancelled) events
          final) ∧
    (∀ reason, .flushed (.error reason) ∈ events →
      report.transitions = [(.idle, .running), (.running, .draining), (.draining, .failed)]) ∧
    ∀ later, report.pipeline.Later later →
      later.lifecycle = report.pipeline.lifecycle ∧ later.lifecycle.isTerminal = true ∧
      (PipelineError.alreadyStarted later.lifecycle).message =
        "Pipeline already started (state: " ++ report.pipeline.lifecycle.name ++ ")" ∧
      ∀ {σ' τ' : Type} (source' : Source σ') (origin' : σ') (sink' : Sink τ') (into' : τ'),
        (∀ fuel, later.run fuel source' origin' sink' into' =
          some ⟨.error (.alreadyStarted later.lifecycle), [], later, into'⟩) ∧
        ∀ events' report', later.Reports source' origin' sink' into' events' report' →
          events' = [] ∧
            report' = ⟨.error (.alreadyStarted later.lifecycle), [], later, into'⟩ := by
  refine ⟨reports.transitions_cases idle, reports.done_iff_ok idle,
    fun _ => reports.draining_of_done idle, reports.cause_of_undrained idle,
    fun _ => reports.drained_of_unflushed idle, ?_⟩
  intro later onward
  obtain ⟨same, again⟩ := reports.started idle onward
  refine ⟨same, by rw [same, reports.isTerminal idle], by rw [same]; rfl, ?_⟩
  intro σ' τ' source' origin' sink' into'
  refine ⟨fun fuel => ?_, fun events' report' => Reports.refused_eq again⟩
  rw [run, if_pos again]

def single : Pipeline := ofConfig ⟨1, 1, 10, Nat.one_pos, Nat.one_pos⟩

/-- The flag is raised while the first batch is in hand: it is dropped without draining. -/
theorem runs_once_dropped : ∃ events report,
    single.Reports .listed [.record [48], .refused .emptyFieldCatalog]
        (Writer.sink ⟨some [10], none⟩) .empty events report ∧
      report.transitions = [(.idle, .running), (.running, .failed)] ∧
      (∃ error final, report.result = .error (.encoding error) ∧
        final.result? = some report.result ∧
        Setup.Dropped ⟨single.config, .listed, Writer.sink ⟨some [10], none⟩⟩
          (.start single.config [.record [48], .refused .emptyFieldCatalog] .empty false) events
          final) ∧
      report.pipeline.run 60 .listed [.record [49]] (Writer.sink ⟨some [10], none⟩) .empty =
        some ⟨.error (.alreadyStarted .failed), [], report.pipeline, .empty⟩ := by
  have popped := (Setup.Run.nil
      (x := ⟨single.config, .listed, Writer.sink ⟨some [10], none⟩⟩)
      (s := .start single.config [.record [48], .refused .emptyFieldCatalog] .empty false)).produce
      rfl |>.produce rfl |>.consume rfl
  have run := popped.produce rfl |>.consume rfl |>.produce rfl |>.consume rfl
  have reports := Reports.returned (x := single) rfl rfl run rfl
  obtain ⟨-, -, -, causes, -, onward⟩ := runs_once rfl reports
  obtain ⟨-, -, -, later⟩ := onward _ .now
  refine ⟨_, _, reports, rfl, ?_, (later _ _ _ _).1 60⟩
  rcases causes rfl with ⟨interrupted, -⟩ | ⟨_, _, _, _, refused, -⟩ | dropped
  · cases interrupted
  · cases refused
  · exact dropped

end Pipeline

end LoadSeries
