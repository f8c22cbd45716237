import LoadSeries.Proofs.Pipeline.Flow

/-!
The course of a run through its lifecycle. The stage of the consumer tells which states the
pipeline has been in: a run that leaves the queue has drained it, unless the producer has raised
its flag, and so a run that ends with a crash of the producer has drained the queue before it
failed.
-/
namespace LoadSeries
open Text

/-- The transitions on the way to a state; a pipeline may fail before it drains, or after. -/
def Lifecycle.route (drained : Bool) : Lifecycle → List (Lifecycle × Lifecycle)
  | idle => []
  | running => [(idle, running)]
  | draining => [(idle, running), (running, draining)]
  | done => [(idle, running), (running, draining), (draining, done)]
  | failed =>
    if drained then [(idle, running), (running, draining), (draining, failed)]
    else [(idle, running), (running, failed)]

namespace System

variable {σ τ : Type}

def IsAt (s : System σ τ) (stage : Lifecycle) (drained : Bool) : Prop :=
  s.lifecycle = stage ∧ s.transitions = stage.route drained

theorem IsAt.enter {s : System σ τ} {stage next : Lifecycle} {drained later : Bool}
    (here : s.IsAt stage drained)
    (onward : next.route later = stage.route drained ++ [(stage, next)]) :
    (s.enter next).IsAt next later := by
  obtain ⟨lifecycle, transitions⟩ := here
  refine ⟨rfl, ?_⟩
  rw [onward, ← transitions, ← lifecycle]
  rfl

/-- The consumer has not left the queue. -/
def Underway (s : System σ τ) : Prop := s.IsAt .running false ∨ s.IsAt .draining true

theorem Underway.fails {s : System σ τ} (underway : s.Underway) :
    ∃ drained, (s.enter .failed).IsAt .failed drained := by
  rcases underway with running | draining
  · exact ⟨false, running.enter rfl⟩
  · exact ⟨true, draining.enter rfl⟩

theorem Underway.drain {s : System σ τ} (underway : s.Underway) : s.drain.IsAt .draining true := by
  unfold System.drain
  rcases underway with running | draining
  · rw [if_pos running.1]
    exact running.enter rfl
  · rw [if_neg (by simp [draining.1])]
    exact draining

/-- Where the pipeline is, and how it got there, by the stage of the consumer. -/
def Course (s : System σ τ) : Prop :=
  match s.consumer with
  | .polling | .popped _ | .writing _ | .idle => s.Underway
  | .leaving => s.IsAt .draining true ∨ s.aborted = true ∧ s.Underway
  | .flushing => s.IsAt .draining true
  | .joining => ∃ drained, s.IsAt .failed drained
  | .returned (.ok _) => s.IsAt .done true
  | .returned (.error error) =>
    ∃ drained, s.IsAt .failed drained ∧ (error = .producerCrashed → drained = true)

end System

namespace Setup

variable {σ τ : Type} {x : Setup σ τ} {origin : σ} {into : τ} {cancelled : Bool}

private theorem course_produce {s t : System σ τ} {new : List Event} (course : s.Course)
    (move : x.ProducerMove s new t) : t.Course := by
  have same := move.frame
  have flagged : s.aborted = true → t.aborted = true := by cases move <;> simp_all
  have kept {stage : Lifecycle} {drained : Bool} (here : s.IsAt stage drained) :
      t.IsAt stage drained :=
    ⟨same.lifecycle.trans here.1, same.transitions.trans here.2⟩
  have underway (going : s.Underway) : t.Underway := going.imp kept kept
  unfold System.Course at course ⊢
  rw [same.consumer]
  cases stage : s.consumer with
  | leaving =>
    simp only [stage] at course
    exact course.imp kept fun ⟨aborted, going⟩ => ⟨flagged aborted, underway going⟩
  | flushing => exact kept (by simpa [stage] using course)
  | joining =>
    simp only [stage] at course
    exact course.imp fun _ here => kept here
  | returned result =>
    cases result with
    | ok counts => exact kept (by simpa [stage] using course)
    | error error =>
      simp only [stage] at course
      exact course.imp fun _ ⟨here, crashed⟩ => ⟨kept here, crashed⟩
  | _ => exact underway (by simpa [stage] using course)

private theorem course_consume {s t : System σ τ} {events new : List Event}
    (run : x.Run (x.start origin into cancelled) events s) (course : s.Course)
    (move : x.ConsumerMove s new t) : t.Course := by
  have flagged := run_flagged run
  -- A consumer that has left the queue may have done so for the flag alone.
  have left (going : s.IsAt .draining true ∨ s.aborted = true ∧ s.Underway) : s.Underway :=
    going.elim .inr And.right
  unfold System.Course at course
  cases move with
  | interrupt polling cancelled =>
    simp only [polling] at course
    exact course.fails
  | starve polling going empty =>
    simp only [polling] at course
    exact course
  | pop polling going queued =>
    simp only [polling] at course
    exact course
  | drop popped aborted =>
    simp only [popped] at course
    exact .inr ⟨aborted, course⟩
  | take popped going =>
    simp only [popped] at course
    exact course
  | write writing accepted =>
    simp only [writing] at course
    exact course
  | stumble writing refused =>
    simp only [writing] at course
    obtain ⟨drained, failed⟩ := course.fails
    exact ⟨drained, failed, by simp⟩
  | closeBatch writing =>
    simp only [writing] at course
    exact course
  | wait idle busy =>
    simp only [idle] at course
    exact course
  | confirm idle finished again =>
    simp only [idle] at course
    exact .inr course.drain
  | leave idle finished enough =>
    simp only [idle] at course
    exact .inl course.drain
  | settle leaving completed =>
    simp only [leaving, flagged, completed] at course
    exact course.resolve_right (by simp)
  | settleRefused leaving refused =>
    simp only [leaving] at course
    obtain ⟨drained, failed⟩ := (left course).fails
    exact ⟨drained, failed, by simp⟩
  | settleInterrupted leaving interrupted =>
    simp only [leaving] at course
    obtain ⟨drained, failed⟩ := (left course).fails
    exact ⟨drained, failed, by simp⟩
  | settleCrashed leaving crashed =>
    simp only [leaving, flagged, crashed] at course
    have draining := course.resolve_right (by simp)
    exact ⟨true, draining.enter rfl, fun _ => rfl⟩
  | flush flushing accepted =>
    simp only [flushing] at course
    exact course.enter rfl
  | flushRefused flushing refused =>
    simp only [flushing] at course
    exact ⟨true, course.enter rfl, by simp⟩
  | join joining finished =>
    simp only [joining] at course
    obtain ⟨drained, failed⟩ := course
    exact ⟨drained, failed, by simp⟩

theorem run_course {events : List Event} {s : System σ τ}
    (run : x.Run (x.start origin into cancelled) events s) : s.Course := by
  refine run.preserves (fun _ s => s.Course) ?_ (fun _ => course_produce) course_consume ?_
  · exact .inl ⟨rfl, rfl⟩
  · intro events t _ course
    exact course

end Setup

end LoadSeries
