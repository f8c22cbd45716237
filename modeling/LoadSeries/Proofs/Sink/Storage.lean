import LoadSeries.Proofs.Pipeline.Outcome
import LoadSeries.Sink.Trial

/-!
Sinks that take every record: what such a sink holds are the records one behind the other, each with
its ending, and it counts the bytes that it holds. A storage without a limit is one of them.
-/
namespace LoadSeries
open Text

namespace Sink

variable {τ : Type} {sink : Sink τ} {ending : Bytes} {content : τ → Bytes} {state rest : τ}

/-- From this state on the sink refuses no call. -/
def Accepts (sink : Sink τ) (state : τ) : Prop :=
  ∀ calls rest, sink.Answers state calls rest → ∀ call ∈ calls,
    (∃ write, call = .accepting write) ∨ call = .flushed (.ok ())

/-- The sink refuses nothing, never calls for the run to be cancelled, and puts every record with
this ending behind the content that it has. -/
structure Collects (sink : Sink τ) (ending : Bytes) (content : τ → Bytes) : Prop where
  write : ∀ {state next record result}, sink.write state record = (result, next) →
    result = .ok (record.length + ending.length) ∧
      content next = content state ++ (record ++ ending)
  flush : ∀ {state next result}, sink.flush state = (result, next) →
    result = .ok () ∧ content next = content state
  quiet : ∀ state, sink.cancels state = false

theorem Collects.accepts (collects : sink.Collects ending content) : sink.Accepts state := by
  intro calls rest answers
  induction answers with
  | nil => simp
  | @written calls rest next record result _ answer ih =>
    obtain ⟨accepted, -⟩ := collects.write answer
    intro call member
    rcases List.mem_append.mp member with earlier | latest
    · exact ih call earlier
    · rw [accepted] at latest
      exact .inl ⟨(record, _), List.mem_singleton.mp latest⟩
  | flushed _ answer ih =>
    obtain ⟨accepted, -⟩ := collects.flush answer
    intro call member
    rcases List.mem_append.mp member with earlier | latest
    · exact ih call earlier
    · rw [accepted] at latest
      exact .inr (List.mem_singleton.mp latest)

/-- What is held behind a row of calls, and how long it is. -/
theorem Collects.content_eq {calls : List Event} (collects : sink.Collects ending content)
    (answers : sink.Answers state calls rest) :
    content rest = content state ++ ((acceptedRecords calls).map (· ++ ending)).flatten ∧
      (content rest).length = (content state).length + acceptedBytes calls := by
  induction answers with
  | nil => simp
  | @written calls rest next record result _ answer ih =>
    obtain ⟨rfl, held⟩ := collects.write answer
    obtain ⟨bytes, length⟩ := ih
    have longer (count : Nat) : acceptedBytes (calls ++ [.written record (.ok count)]) =
        acceptedBytes calls + count := by simp
    constructor
    · rw [held, bytes]
      simp
    · rw [held, List.length_append, length, longer, List.length_append, Nat.add_assoc]
  | flushed _ answer ih =>
    obtain ⟨rfl, held⟩ := collects.flush answer
    rw [held]
    simpa using ih

end Sink

namespace Writer

variable {terminator : Option Bytes} {storage rest : Storage}

abbrev unlimited (terminator : Option Bytes) : Writer := ⟨terminator, none⟩

theorem collects_unlimited : (unlimited terminator).sink.Collects
    (unlimited terminator).ending Storage.bytes where
  write answer := by
    cases answer
    exact ⟨rfl, by simp [Storage.bytes]⟩
  flush answer := by
    cases answer
    exact ⟨rfl, rfl⟩
  quiet _ := rfl

theorem accepts_of_unlimited : (unlimited terminator).sink.Accepts storage :=
  collects_unlimited.accepts

theorem stored_of_unlimited {calls : List Event}
    (answers : (unlimited terminator).sink.Answers storage calls rest) :
    rest.bytes = storage.bytes ++
        ((acceptedRecords calls).map (· ++ (unlimited terminator).ending)).flatten ∧
      rest.bytes.length = storage.bytes.length + acceptedBytes calls :=
  collects_unlimited.content_eq answers

end Writer

namespace Faults

variable {τ : Type} {x : Faults} {sink : Sink τ} {trial rest : Trial τ}

/-- Without a planned refusal, the sink behind gives the same answers. -/
theorem answers_inner {calls : List Event} (writes : x.failAt = none)
    (flushes : x.failFlush = false) (answers : (x.sink sink).Answers trial calls rest) :
    sink.Answers trial.inner calls rest.inner := by
  induction answers with
  | nil => exact .nil
  | @written calls rest next record result _ answer ih =>
    have passed : sink.write rest.inner record = (result, next.inner) := by
      simp only [Faults.sink, write, writes, reduceCtorEq, if_false] at answer
      split at answer <;> cases answer <;> assumption
    exact ih.written passed
  | @flushed calls rest next result _ answer ih =>
    have passed : sink.flush rest.inner = (result, next.inner) := by
      simp only [Faults.sink, flush, flushes, Bool.false_eq_true, if_false] at answer
      split at answer <;> cases answer <;> assumption
    exact ih.flushed passed

theorem accepts (writes : x.failAt = none) (flushes : x.failFlush = false)
    (behind : sink.Accepts trial.inner) : (x.sink sink).Accepts trial :=
  fun _ _ answers => behind _ _ (answers_inner writes flushes answers)

end Faults

end LoadSeries
